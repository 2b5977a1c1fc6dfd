namespace TableForge.Path

-- The pieces of a text between its slashes, which may be empty.
def pieces : List Char → List (List Char)
  | [] => [[]]
  | c :: rest =>
    if c = '/' then [] :: pieces rest
    else match pieces rest with
      | [] => [[c]]
      | piece :: more => (c :: piece) :: more

theorem pieces_ne_nil (s : List Char) : pieces s ≠ [] := by
  cases s with
  | nil => simp [pieces]
  | cons c rest => by_cases h : c = '/' <;> cases hp : pieces rest <;> simp [pieces, h, hp]

-- A slash separates: the pieces of two texts with a slash in between are those of both.
theorem pieces_append_slash (s t : List Char) : pieces (s ++ '/' :: t) = pieces s ++ pieces t := by
  induction s with
  | nil => simp [pieces]
  | cons c rest ih =>
    by_cases h : c = '/'
    · simp [pieces, h, ih]
    · cases hp : pieces rest with
      | nil => exact absurd hp (pieces_ne_nil rest)
      | cons piece more => simp [pieces, h, ih, hp]

def parts (path : String) : List String :=
  ((pieces path.toList).filter (!·.isEmpty)).map String.ofList

def isAbsolute (path : String) : Bool := path.toList.head? == some '/'

def asksForDirectory (path : String) : Bool := path.toList.getLast? == some '/'

-- A path that is looked for in a directory. An absolute one stays as it is.
def join (directory path : String) : String :=
  if isAbsolute path then path
  else if directory.isEmpty || asksForDirectory directory then directory ++ path
  else directory ++ "/" ++ path

-- The parts that count: single dots do so only at the beginning of a path.
def steps (path : String) : List String :=
  match parts path with
  | [] => []
  | first :: rest =>
    (if first = "." && isAbsolute path then [] else [first]) ++ rest.filter (· ≠ ".")

-- A text, read from its end, without the slashes, and the single dots between them, at its end. A
-- dot at its very beginning stays.
def trimmedEnd : List Char → List Char
  | '/' :: rest => trimmedEnd rest
  | ['.'] => ['.']
  | '.' :: '/' :: rest => trimmedEnd rest
  | reversed => reversed

-- The path without its last part; there is none for the root and for the empty path.
def parent? (path : String) : Option String :=
  match (steps path).reverse with
  | [] => none
  | _ =>
    let last := trimmedEnd path.toList.reverse
    let before := last.dropWhile (· ≠ '/')
    match trimmedEnd before, isAbsolute path with
    | [], true => some "/"
    | kept, _ => some (String.ofList kept.reverse)

def ancestorsUpTo : Nat → String → List String
  | 0, _ => []
  | n + 1, path => path :: ((parent? path).map (ancestorsUpTo n)).getD []

-- A path, the path without its last part, and so on. Each is shorter than the one before.
def ancestors (path : String) : List String := ancestorsUpTo (path.length + 1) path

def fileName? (path : String) : Option String :=
  match (steps path).getLast? with
  | some name => if name = "." || name = ".." then none else some name
  | none => none

end TableForge.Path
