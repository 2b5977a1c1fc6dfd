import TableForge.Json.Basic

-- Places in JSON values, and changes at them.
namespace TableForge.Json

-- A step of a path: to a label, or to an item that is counted from the beginning or from the
-- end.
inductive Step where
  | label (s : Spelled)
  | item (n : Nat)
  | fromEnd (n : Nat)
  deriving DecidableEq, Repr

def quotedLabel : List UInt8 → Option (List UInt8 × List UInt8)
  | [] => none
  | 0x22 :: rest => some ([], rest)
  | 0x5C :: b :: rest => (quotedLabel rest).map fun (s, after) => (0x5C :: b :: s, after)
  | b :: rest => (quotedLabel rest).map fun (s, after) => (b :: s, after)

def naturalOf (digits : List UInt8) : Nat := digits.foldl (fun n b => n * 10 + (b.toNat - 0x30)) 0

def readStep : List UInt8 → Option (Step × List UInt8)
  | 0x2E :: 0x22 :: rest =>
    (quotedLabel rest).map fun (s, after) =>
      (.label ⟨if s.contains 0x5C then .loose else .raw, s⟩, after)
  | 0x2E :: rest =>
    let s := rest.takeWhile fun b => b ≠ 0x2E && b ≠ 0x5B
    if s.isEmpty then none else some (.label ⟨.raw, s⟩, rest.drop s.length)
  | 0x5B :: 0x23 :: rest =>
    let digits := if rest.head? = some 0x2D then rest.tail.takeWhile isDigit else []
    let rest := if digits.isEmpty then rest else rest.drop (digits.length + 1)
    if rest.head? = some 0x5D then some (.fromEnd (naturalOf digits), rest.tail) else none
  | 0x5B :: rest =>
    let digits := rest.takeWhile isDigit
    let rest := rest.drop digits.length
    if !digits.isEmpty && rest.head? = some 0x5D then some (.item (naturalOf digits), rest.tail)
    else none
  | _ => none

-- How the search for a place ended: the place is there, it is not, or the path is none.
inductive Lookup (α : Type) where
  | found (a : α)
  | missing
  | badPath

-- The position of an item in an array of some size. There may be none after the end.
def Step.position? (s : Step) (size : Nat) : Option Nat :=
  match s with
  | .label _ => none
  | .item n => some n
  | .fromEnd n => if size < n then none else some (size - n)

def labelIndex? (labels : List Spelled) (s : Spelled) : Option Nat :=
  labels.findIdx? fun label => label.content == s.content

-- What a step leads to: an array or an object, and the position in it, which may be the one
-- behind the last part.
def target? (step : Step) : Json → Option Nat
  | .array items => step.position? items.length
  | .object labels _ =>
    match step with
    | .label s => some ((labelIndex? labels s).getD labels.length)
    | _ => none
  | _ => none

-- The value at a path. Each step takes a unit of fuel.
def lookUp : Nat → List UInt8 → Json → Lookup Json
  | 0, _, _ => .badPath
  | _ + 1, [], j => .found j
  | fuel + 1, path, j =>
    let enters (c : UInt8) : Bool := path.head? = some c
    match j with
    | .array items =>
      -- a path of a label is looked at before the value, one of an item after it
      match readStep path with
      | none => .badPath
      | some (step, rest) =>
        match (step.position? items.length).bind fun i => items[i]? with
        | some item => lookUp fuel rest item
        | none => .missing
    | .object labels values =>
      if enters 0x5B then .missing
      else
        match readStep path with
        | some (.label s, rest) =>
          match (labelIndex? labels s).bind fun i => values[i]? with
          | some value => lookUp fuel rest value
          | none => .missing
        | _ => .badPath
    | _ => if enters 0x5B then .missing else if (readStep path).isSome then .missing else .badPath

inductive Change where
  | delete
  -- only where there is nothing yet, only where there is something, or in any case
  | insert (j : Json)
  | replace (j : Json)
  | set (j : Json)

def Change.value? : Change → Option Json
  | .delete => none
  | .insert j | .replace j | .set j => some j

def Change.creates : Change → Bool
  | .insert _ | .set _ => true
  | .delete | .replace _ => false

-- The value changed at a path; a value that is to go leaves nothing. Each step takes a unit of
-- fuel.
def change (c : Change) : Nat → List UInt8 → Json → Lookup (Option Json)
  | 0, _, _ => .badPath
  | _ + 1, [], j =>
    match c with
    | .delete => .found none
    | .insert _ => .found (some j)
    | .replace new | .set new => .found (some new)
  | fuel + 1, path, j =>
    -- a new part with everything that the rest of the path asks for
    let created (rest : List UInt8) : Lookup Json :=
      match rest, c.value? with
      | _, none => .missing
      | [], some new => .found new
      | b :: _, _ =>
        match change c fuel rest (if b = 0x2E then .object [] [] else .array []) with
        | .found (some new) => .found new
        | .found none | .missing => .missing
        | .badPath => .badPath
    match j with
    | .array items =>
      match readStep path with
      | none => .badPath
      | some (step, rest) =>
        match step.position? items.length with
        | none => .missing
        | some i =>
          match items[i]? with
          | some item =>
            match change c fuel rest item with
            | .found (some new) => .found (some (.array (items.set i new)))
            | .found none => .found (some (.array (items.eraseIdx i)))
            | .missing => .missing
            | .badPath => .badPath
          | none =>
            if i = items.length && c.creates then
              match created rest with
              | .found new => .found (some (.array (items ++ [new])))
              | .missing => .missing
              | .badPath => .badPath
            else .missing
    | .object labels values =>
      if path.head? = some 0x5B then .missing
      else
        match readStep path with
        | some (.label s, rest) =>
          match labelIndex? labels s with
          | some i =>
            match change c fuel rest (values.getD i .null) with
            | .found (some new) => .found (some (.object labels (values.set i new)))
            | .found none => .found (some (.object (labels.eraseIdx i) (values.eraseIdx i)))
            | .missing => .missing
            | .badPath => .badPath
          | none =>
            if c.creates then
              match created rest with
              | .found new => .found (some (.object (labels ++ [s]) (values ++ [new])))
              | .missing => .missing
              | .badPath => .badPath
            else .missing
        | _ => .badPath
    | _ =>
      if path.head? = some 0x5B then .missing
      else if (readStep path).isSome then .missing else .badPath

-- The value with the parts of a patch put in. Null takes a part away, and only objects are
-- merged. Each level takes a unit of fuel.
def merge : Nat → Json → Json → Json
  | 0, j, _ => j
  | fuel + 1, j, .object names news =>
    let start : List Spelled × List Json := match j with
      | .object labels values => (labels, values)
      | _ => ([], [])
    let (labels, values) := (names.zip news).foldl (fun (labels, values) (name, new) =>
      match labelIndex? labels name with
      | some i =>
        match new with
        | .null => (labels.eraseIdx i, values.eraseIdx i)
        | new => (labels, values.set i (merge fuel (values.getD i .null) new))
      | none =>
        match new with
        | .null => (labels, values)
        | new => (labels ++ [name], values ++ [merge fuel .null new])) start
    .object labels values
  | _ + 1, _, patch => patch

end TableForge.Json
