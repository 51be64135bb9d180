/-
  LineShell.Block

  The environment of a process as the system holds it: a list of byte strings, each a
  key, an equals sign and a value.

  A process receives its block from a map that is sorted by the bytes of the keys, so a
  key occurs once, with the value that was given last. A shell that captures a block cuts
  each entry at its first equals sign after the first byte.
-/
import LineShell.Environment
import LineShell.Text.Utf8

namespace LineShell

/-- A map from keys to values, as pairs in the order of the bytes of the keys. -/
abbrev Block := List (Bytes × Bytes)

namespace Block

/-- Puts a value under a key, in place of the value that was there. -/
def insert (key value : Bytes) : Block → Block
  | [] => [(key, value)]
  | (k, v) :: rest =>
    if key < k then (key, value) :: (k, v) :: rest
    else if key = k then (key, value) :: rest
    else (k, v) :: insert key value rest

/-- The map of a list of pairs; a later pair replaces an earlier one with its key. -/
def ofPairs (pairs : List (Bytes × Bytes)) : Block :=
  pairs.foldl (fun block pair => insert pair.1 pair.2 block) []

/-- The map of a shell's variables. -/
def ofVars (vars : List (String × String)) : Block :=
  ofPairs (vars.map fun (key, value) => (Utf8.encode key, Utf8.encode value))

/-- The byte of the equals sign. -/
def equalsSign : UInt8 := 0x3D

/-- The entry of a key and a value. -/
def entry (key value : Bytes) : Bytes := key ++ equalsSign :: value

/-- The entries of a map, in its order. -/
def entries (block : Block) : List Bytes :=
  block.map fun (key, value) => entry key value

/-- The key and the value of an entry. The first byte belongs to the key, whatever it is;
    an entry without an equals sign after it has none. -/
def split? : Bytes → Option (Bytes × Bytes)
  | [] => none
  | first :: rest =>
    match rest.dropWhile (· != equalsSign) with
    | [] => none
    | _ :: value => some (first :: rest.takeWhile (· != equalsSign), value)

/-- The variables that a shell captures from the entries of a block: keys and values are
    read as text one by one, and the order stays. -/
def capture (entries : List Bytes) : List (String × String) :=
  (entries.filterMap split?).map fun (key, value) =>
    (Utf8.decodeLossy key, Utf8.decodeLossy value)

end Block
end LineShell
