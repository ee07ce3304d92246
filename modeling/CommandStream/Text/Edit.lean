import CommandStream.Text.Class

/-!
# Cutting and joining texts

Trimming, cutting at a character and replacing, over lists of characters with wrappers on `String`.
-/

namespace CommandStream.Text

/-- A text without its trailing blanks. -/
def trimEnd (cs : List Char) : List Char :=
  (cs.reverse.dropWhile isBlank).reverse

/-- A text without its leading and trailing blanks. -/
def trim (cs : List Char) : List Char :=
  trimEnd (cs.dropWhile isBlank)

/-- The pieces between the occurrences of a separator; at least one. -/
def pieces (separator : Char) : List Char → List (List Char)
  | [] => [[]]
  | c :: rest =>
    if c = separator then [] :: pieces separator rest
    else
      match pieces separator rest with
      | [] => [[c]]
      | piece :: others => (c :: piece) :: others

theorem pieces_ne_nil (separator : Char) (cs : List Char) : pieces separator cs ≠ [] := by
  cases cs with
  | nil => simp [pieces]
  | cons c rest =>
    unfold pieces
    split
    · simp
    · split <;> simp

/-- The rest of a text behind a given start. -/
def afterPrefix? : List Char → List Char → Option (List Char)
  | [], rest => some rest
  | _ :: _, [] => none
  | p :: ps, c :: cs => if p = c then afterPrefix? ps cs else none

theorem eq_append_of_afterPrefix? {start cs rest : List Char}
    (h : afterPrefix? start cs = some rest) : cs = start ++ rest := by
  induction start generalizing cs with
  | nil => simpa [afterPrefix?] using h
  | cons p ps ih =>
    cases cs with
    | nil => simp [afterPrefix?] at h
    | cons c cs =>
      by_cases hp : p = c
      · simp only [afterPrefix?, hp, if_true] at h
        simp [hp, ih h]
      · simp [afterPrefix?, hp] at h

/-- Whether a text occurs within another. -/
def occursIn (pattern : List Char) : List Char → Bool
  | [] => pattern.isEmpty
  | c :: cs => pattern.isPrefixOf (c :: cs) || occursIn pattern cs

/-- Replacement of the occurrences of a pattern from the left; `skip` characters of an occurrence
are still to be passed over. -/
def replaceFrom (pattern replacement : List Char) : Nat → List Char → List Char
  | _, [] => []
  | skip + 1, _ :: cs => replaceFrom pattern replacement skip cs
  | 0, c :: cs =>
    if pattern.isPrefixOf (c :: cs) then
      replacement ++ replaceFrom pattern replacement (pattern.length - 1) cs
    else c :: replaceFrom pattern replacement 0 cs

end CommandStream.Text

namespace CommandStream
open Text

/-- A string without its leading and trailing blanks. -/
def trimmed (s : String) : String :=
  String.ofList (trim s.toList)

/-- Whether a string begins with another. -/
def beginsWith (s start : String) : Bool :=
  start.toList.isPrefixOf s.toList

/-- Whether a string ends with another. -/
def finishesWith (s ending : String) : Bool :=
  ending.toList.isSuffixOf s.toList

/-- A string without its first characters. -/
def dropFirst (s : String) (count : Nat) : String :=
  String.ofList (s.toList.drop count)

/-- A string with the nonempty pattern replaced throughout. -/
def replaceAll (s pattern replacement : String) : String :=
  String.ofList (replaceFrom pattern.toList replacement.toList 0 s.toList)

/-- So many spaces. -/
def spaces (count : Nat) : String :=
  String.ofList (List.replicate count ' ')

/-- A string padded with spaces to a column. -/
def padTo (column : Nat) (s : String) : String :=
  s ++ spaces (column - s.length)

end CommandStream
