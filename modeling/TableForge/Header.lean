import TableForge.Text.Replace

namespace TableForge

structure Timestamp where
  year : Int
  month : Nat
  day : Nat
  hour : Nat
  minute : Nat
  second : Nat
  nanosecond : Nat
  deriving DecidableEq, Repr

namespace Timestamp

def padded (width n : Nat) : String :=
  let digits := Nat.toDigits 10 n
  String.ofList (List.replicate (width - digits.length) '0' ++ digits)

-- Four digits; a year outside of 0 to 9999 has a sign.
def yearText (year : Int) : String :=
  if year < 0 then "-" ++ padded 4 year.natAbs
  else if 9999 < year then "+" ++ padded 4 year.natAbs
  else padded 4 year.natAbs

def text (time : Timestamp) : String :=
  yearText time.year ++ "-" ++ padded 2 time.month ++ "-" ++ padded 2 time.day ++ " " ++
    padded 2 time.hour ++ ":" ++ padded 2 time.minute ++ ":" ++ padded 2 time.second ++ "." ++
    padded 6 (time.nanosecond / 1000)

end Timestamp

-- What stands above every generated module, with places for the file's name and a description
-- of one line.
structure Header where
  template : String
  deriving DecidableEq, Repr

namespace Header

-- The name of the file is put in first, so a name that asks for the description gets it.
def render (h : Header) (file brief : String) : String :=
  Text.replace "@brief" brief (Text.replace "@file" file h.template)

def version : String := "0.3.0"

def forTables (time : Timestamp) : Header := ⟨
  "// -*- C++ -*-\n" ++
  "//=============================================================================\n" ++
  "/**\n" ++
  " *      Copyright: (c) " ++ toString time.year ++ " the tablegen authors\n" ++
  " *\n" ++
  " *      @file\n" ++
  " *\n" ++
  " *      @brief\n" ++
  " *\n" ++
  " *      @author [tablegen " ++ version ++ "]\n" ++
  " *\n" ++
  " *      Revision History:\n" ++
  " *          AUTO GENERATED at " ++ time.text ++ ".\n" ++
  " *          DO NOT EDIT!\n" ++
  " */\n" ++
  "//=============================================================================\n"⟩

def forData (time : Timestamp) : Header := ⟨
  "/*******************************************************\n" ++
  " Copyright (C) " ++ toString time.year ++ " the tablegen authors\n" ++
  "\n" ++
  " @file\n" ++
  "\n" ++
  " @brief\n" ++
  "\n" ++
  " Generated once by tablegen as a starting point; edit freely.\n" ++
  " ********************************************************/\n"⟩

end Header

end TableForge
