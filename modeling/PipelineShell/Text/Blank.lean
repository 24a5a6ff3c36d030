/-!
# Blank characters

A line is cut at blank characters and trimmed of them.  Blank means the
White_Space property of Unicode: 25 characters, six of them ASCII.
-/

namespace PipelineShell.Text

/-- The characters with the Unicode property White_Space. -/
def isBlank (c : Char) : Bool :=
  let n := c.toNat
  (9 ≤ n && n ≤ 13) || n == 0x20 || n == 0x85 || n == 0xA0 || n == 0x1680 ||
    (0x2000 ≤ n && n ≤ 0x200A) || n == 0x2028 || n == 0x2029 || n == 0x202F ||
    n == 0x205F || n == 0x3000

/-- Drop the blanks at the end. -/
def trimEndChars (cs : List Char) : List Char :=
  (cs.reverse.dropWhile isBlank).reverse

/-- Drop the blanks at both ends. -/
def trimChars (cs : List Char) : List Char :=
  trimEndChars (cs.dropWhile isBlank)

/-- The text without the blanks at its ends. -/
def trim (s : String) : String :=
  String.ofList (trimChars s.toList)

/-- A text of blanks only, or an empty one. -/
def isBlankLine (s : String) : Bool :=
  s.toList.all isBlank

theorem trimChars_eq_nil_iff (cs : List Char) :
    trimChars cs = [] ↔ cs.all isBlank = true := by
  have hdrop : ∀ ds : List Char, ds.dropWhile isBlank = [] ↔ ds.all isBlank = true := by
    intro ds
    induction ds with
    | nil => simp
    | cons d ds ih =>
      rw [List.dropWhile_cons, List.all_cons]
      cases isBlank d with
      | true => exact ih
      | false => simp
  constructor
  · intro h
    have hrev : (cs.dropWhile isBlank).reverse.dropWhile isBlank = [] := by
      simpa [trimChars, trimEndChars] using h
    have hall := (hdrop _).1 hrev
    cases hcs : cs.dropWhile isBlank with
    | nil => exact (hdrop cs).1 hcs
    | cons d ds =>
      have hd : isBlank d = true := by
        rw [hcs] at hall
        exact List.all_eq_true.1 hall d (by simp)
      have : (cs.dropWhile isBlank).head? = some d := by rw [hcs]; rfl
      have hhead := List.head?_dropWhile_not isBlank cs
      rw [this] at hhead
      simp [hd] at hhead
  · intro h
    simp [trimChars, trimEndChars, (hdrop cs).2 h]

end PipelineShell.Text
