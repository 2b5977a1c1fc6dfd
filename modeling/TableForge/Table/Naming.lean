namespace TableForge.Naming

-- Tables whose classes do not take the table's own name, in the order of their names.
def overrides : List (String × String) := [
  ("ACCOUNTLIST_V1", "Account"),
  ("ASSETS_V1", "Asset"),
  ("ATTACHMENT_V1", "Attachment"),
  ("BILLSDEPOSITS_V1", "Scheduled"),
  ("BUDGETSPLITTRANSACTIONS_V1", "ScheduledSplit"),
  ("BUDGETTABLE_V1", "Budget"),
  ("BUDGETYEAR_V1", "BudgetPeriod"),
  ("CATEGORY_V1", "Category"),
  ("CHECKINGACCOUNT_V1", "Transaction"),
  ("CURRENCYFORMATS_V1", "Currency"),
  ("CURRENCYHISTORY_V1", "CurrencyHistory"),
  ("CUSTOMFIELDDATA_V1", "FieldValue"),
  ("CUSTOMFIELD_V1", "Field"),
  ("INFOTABLE_V1", "Info"),
  ("PAYEE_V1", "Payee"),
  ("REPORT_V1", "Report"),
  ("SETTING_V1", "Setting"),
  ("SHAREINFO_V1", "TransactionShare"),
  ("SPLITTRANSACTIONS_V1", "TransactionSplit"),
  ("STOCKHISTORY_V1", "StockHistory"),
  ("STOCK_V1", "Stock"),
  ("TAGLINK_V1", "TagLink"),
  ("TAG_V1", "Tag"),
  ("TRANSLINK_V1", "TransactionLink"),
  ("USAGE_V1", "Usage")]

-- Binary search in entries that are in the order of their keys; `fuel` bounds the halvings.
def searchWithin : Nat → List (String × String) → String → Option String
  | 0, _, _ => none
  | fuel + 1, entries, key =>
    let middle := entries.length / 2
    match entries.drop middle with
    | [] => none
    | (name, value) :: right =>
      if key < name then searchWithin fuel (entries.take middle) key
      else if key = name then some value
      else searchWithin fuel right key

-- The value under a key of ordered entries. Each step leaves fewer entries.
def search? (entries : List (String × String)) (key : String) : Option String :=
  searchWithin (entries.length + 1) entries key

-- What the names of a table's classes begin with: its override, or its name and an underscore.
def classBase (table : String) : String := (search? overrides table).getD (table ++ "_")

end TableForge.Naming
