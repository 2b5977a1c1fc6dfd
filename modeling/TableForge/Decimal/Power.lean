namespace TableForge

-- Powers of two and of ten, by which the units of numbers are scaled.

abbrev twoTo (n : Nat) : Nat := Nat.pow 2 n

abbrev tenTo (n : Nat) : Nat := Nat.pow 10 n

end TableForge
