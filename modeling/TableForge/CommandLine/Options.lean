import TableForge.Generator.Kinds

namespace TableForge.CommandLine

structure Options where
  schema : String
  -- the kinds that are named by flags
  selected : Kinds := {}
  config : Option String := none
  outputDir : Option String := none
  traceFile : Option String := none
  deriving DecidableEq, Repr

def Options.kinds (o : Options) : Kinds := o.selected.orUsual

inductive Refusal where
  | missingSchema
  | unknownArgument
  -- an option is given twice
  | repeated
  -- a value is missing, or it is empty and must not be
  | invalidValue
  -- a value for an option that has none
  | surplusValue
  | help
  | version
  deriving DecidableEq, Repr

-- What has a value: the schema, which has no name, and the named options.
inductive Setting where
  | schema
  | config
  | outputDir
  | traceFile
  deriving DecidableEq, Repr

structure Draft where
  selected : Kinds := {}
  settings : List (Setting × String) := []
  -- the last setting and its value, if that was there; they are not checked yet
  pending : Option (Setting × Option String) := none
  deriving DecidableEq, Repr

namespace Draft

def has (d : Draft) (s : Setting) : Bool := (d.settings.lookup s).isSome

def allows (s : Setting) (value : String) : Bool := s == .traceFile || !value.isEmpty

def settle (d : Draft) : Except Refusal Draft :=
  match d.pending with
  | none => .ok d
  | some (_, none) => .error .invalidValue
  | some (s, some value) =>
    if d.has s then .error .repeated
    else if !allows s value then .error .invalidValue
    else .ok { d with settings := (s, value) :: d.settings, pending := none }

def withPending (d : Draft) (s : Setting) (value : Option String) : Draft :=
  { d with pending := some (s, value) }

def awaits? (d : Draft) : Option Setting :=
  match d.pending with
  | some (s, none) => some s
  | _ => none

def hasSchema (d : Draft) : Bool :=
  d.has .schema || (match d.pending with
    | some (s, _) => s == .schema
    | none => false)

-- An argument without a name. Only one is taken, and one too many is told before an earlier
-- argument is checked.
def positional (d : Draft) (arg : String) : Except Refusal Draft :=
  if d.hasSchema then .error .unknownArgument
  else do return (← d.settle).withPending .schema (some arg)

-- One letter of an argument such as -st. An unknown one is told before an earlier argument is
-- checked.
def letter (d : Draft) (c : Char) : Except Refusal Draft :=
  let select (isSet : Bool) (selected : Kinds) : Except Refusal Draft := do
    let d ← d.settle
    if isSet then throw .repeated
    return { d with selected }
  let k := d.selected
  match c with
  | 's' => select k.dump { k with dump := true }
  | 't' => select k.tables { k with tables := true }
  | 'd' => select k.data { k with data := true }
  | 'p' => select k.patch { k with patch := true }
  | 'h' => do let _ ← d.settle; throw .help
  | 'V' => do let _ ← d.settle; throw .version
  | _ => .error .unknownArgument

def option (d : Draft) (s : Setting) (value : Option String) : Except Refusal Draft := do
  let d := (← d.settle).withPending s value
  if value.isSome then d.settle else return d

def request (d : Draft) (refusal : Refusal) (value : Option String) : Except Refusal Draft :=
  if value.isSome then .error .surplusValue else do let _ ← d.settle; throw refusal

def long (d : Draft) (arg : List Char) : Except Refusal Draft :=
  let name := String.ofList (arg.takeWhile (· ≠ '='))
  let value := match arg.dropWhile (· ≠ '=') with
    | [] => none
    | _ :: value => some (String.ofList value)
  match name with
  | "config" => d.option .config value
  | "output-dir" => d.option .outputDir value
  | "tracing-output" => d.option .traceFile value
  | "help" => d.request .help value
  | "version" => d.request .version value
  | _ => .error .unknownArgument

def argument (d : Draft) (arg : String) : Except Refusal Draft :=
  match arg.toList with
  | '-' :: '-' :: name => d.long name
  | '-' :: c :: letters => (c :: letters).foldlM letter d
  | _ =>
    match d.awaits? with
    | some s => .ok (d.withPending s (some arg))
    | none => d.positional arg

def read (d : Draft) : List String → Except Refusal Draft
  | [] => d.settle
  | "--" :: rest => do (← rest.foldlM positional d).settle
  | arg :: rest => do read (← d.argument arg) rest

def value? (d : Draft) (s : Setting) : Option String := d.settings.lookup s

end Draft

-- Reads an argument list. A missing schema is told last.
def Options.ofArguments (args : List String) : Except Refusal Options := do
  let d ← Draft.read {} args
  match d.value? .schema with
  | none => throw .missingSchema
  | some schema => return {
      schema
      selected := d.selected
      config := d.value? .config
      outputDir := d.value? .outputDir
      traceFile := d.value? .traceFile }

end TableForge.CommandLine
