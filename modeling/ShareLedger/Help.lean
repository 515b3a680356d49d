/-!
# Help

The text that explains the commands.
-/

namespace ShareLedger

/-- The lines of the text that explains the commands. -/
def helpLines : List String := [
  "sharebook commands",
  "",
  "Player and company information:",
  "    holdings                              Show player cash and share holdings.",
  "    values                                Show player cash and share values.",
  "    companies                             Show company treasuries, values and ownership.",
  "    bank                                  Show the money remaining in the bank.",
  "",
  "Game actions:",
  "    <player> buy [n] <company> [@price] [from <seller>]",
  "                                          Buy shares, paying the seller if a price is given.",
  "    <player> sell [n] <company> [@price]  Sell shares, receiving the price if one is given.",
  "    <company> dividend <amount|PREV>      Pay a dividend per share to every shareholder.",
  "    <company> halfdividend <total|PREV>   Retain half in the company, pay half to shares [1].",
  "    <company> value <amount>              Set the company share value.",
  "    <company> float <amount>              Start the company with cash in its treasury.",
  "    close <company>                       Remove the company and every share of it.",
  "    <player|company> cash <amount>        Add (or with a minus sign, take) cash [2].",
  "    <player|company> give <amount> to <player|company>",
  "                                          Move cash between two parties [2].",
  "    <player|company> income <amount>      Set income paid at the start of each operating round.",
  "    next SR | next OR                     Start the next stock or operating round.",
  "    banksize [symbol]<amount>             Set the bank size, optionally with a currency.",
  "    rounding UP | rounding 1837           Change how half dividends are rounded.",
  "    companycredits                        Company cash does not come from the bank.",
  "    # <text>                              Add a note to the game log.",
  "",
  "[1] Retained half is rounded down to the nearest ten unless rounding says otherwise.",
  "[2] Company cash goes to the treasury once the company has floated.",
  "",
  "Game management:",
  "    listGames                             List all games, marking the active one.",
  "    open <game>                           Open a game.",
  "    delete <game>                         Delete a game permanently.",
  "    start <game>                          Start a new game.",
  "",
  "Other commands:",
  "    undo                                  Undo the last command that changed the game.",
  "    help                                  Show this text.",
  "    quit, exit                            Leave sharebook."]

/-- The text that explains the commands. -/
def helpText : String := String.join (helpLines.map (· ++ "\n"))

end ShareLedger
