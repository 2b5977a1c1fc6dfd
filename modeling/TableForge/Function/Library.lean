import TableForge.Function.Format
import TableForge.Function.Json
import TableForge.Function.Time

namespace TableForge.Function

def library : List Function := ofTexts ++ ofNumbers ++ ofFormats ++ ofTimes ++ ofJsons

def find? (name : String) (count : Nat) : Option Function :=
  let name := name.toLower
  library.find? fun f => f.name == name && f.accepts count

end TableForge.Function
