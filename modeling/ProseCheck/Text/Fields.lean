import ProseCheck.Text.Blank

/-!
# Cutting a text into fields

Three ways to cut a text at separators: at every separator (`fields`), at every maximal run of
separators (`pieces`), and into the words between blanks (`words`).
-/

namespace ProseCheck.Text

/-- Puts `c` in front of the first of the fields. -/
def consHead (c : Char) : List (List Char) → List (List Char)
  | [] => [[c]]
  | f :: fs => (c :: f) :: fs

/-- The fields of `s` between separators: `n` separators leave `n + 1` fields, some perhaps
empty. -/
def fields (sep : Char → Bool) : List Char → List (List Char)
  | [] => [[]]
  | c :: s => if sep c then [] :: fields sep s else consHead c (fields sep s)

/-- The pieces of `s` between maximal runs of separators. Only the first and the last piece can be
empty, when `s` starts or ends with a separator. -/
def pieces (sep : Char → Bool) : List Char → List (List Char)
  | [] => [[]]
  | c :: s =>
    if sep c then
      if s.head?.any sep then pieces sep s else [] :: pieces sep s
    else consHead c (pieces sep s)

/-- The words of `s`: its maximal runs of characters that are not blank. -/
def words (s : List Char) : List (List Char) :=
  (fields isBlank s).filter (fun w => !w.isEmpty)

end ProseCheck.Text
