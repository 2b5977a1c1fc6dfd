namespace TableForge

inductive Sorting where
  | caseInsensitive
  | localized
  | natural
  deriving DecidableEq, Repr

namespace Sorting

def displayNames : List String := ["ACCOUNTNAME", "CATEGNAME", "PAYEENAME", "SUBCATEGNAME"]

def localizedNames : List String := ["CURRENCYNAME"]

def ofField (name : String) : Sorting :=
  if name ∈ displayNames then .caseInsensitive
  else if name ∈ localizedNames then .localized
  else .natural

end Sorting

end TableForge
