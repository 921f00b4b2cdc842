/-!
Blank characters: the characters with the Unicode property `White_Space`, and trimming by it.
-/

set_option autoImplicit false
set_option relaxedAutoImplicit false

namespace BearerGate.Text

/-- The characters with the property `White_Space`. -/
def isBlank (c : Char) : Bool :=
  c == ' ' || ('\t' ≤ c && c ≤ '\r') || c == '\u0085' || c == '\u00a0' || c == '\u1680' ||
    ('\u2000' ≤ c && c ≤ '\u200a') || c == '\u2028' || c == '\u2029' || c == '\u202f' ||
    c == '\u205f' || c == '\u3000'

def isAsciiBlank (c : Char) : Bool :=
  c == ' ' || c == '\t' || c == '\n' || c == '\x0c' || c == '\r'

def dropLastWhile (p : Char → Bool) (cs : List Char) : List Char :=
  (cs.reverse.dropWhile p).reverse

def trimChars (cs : List Char) : List Char :=
  dropLastWhile isBlank (cs.dropWhile isBlank)

def trim (s : String) : String :=
  String.ofList (trimChars s.toList)

theorem dropLastWhile_concat {p : Char → Bool} {c : Char} (dropped : p c = true)
    (cs : List Char) : dropLastWhile p (cs ++ [c]) = dropLastWhile p cs := by
  rw [dropLastWhile, List.reverse_concat, List.dropWhile_cons, if_pos dropped, dropLastWhile]

theorem dropLastWhile_of_last {p : Char → Bool} {cs : List Char}
    (kept : ∀ c, cs.getLast? = some c → p c = false) : dropLastWhile p cs = cs := by
  cases reversed : cs.reverse with
  | nil =>
    rw [List.reverse_eq_nil_iff] at reversed
    rw [reversed]
    rfl
  | cons c rest =>
    have last : cs.getLast? = some c := by rw [← List.head?_reverse, reversed, List.head?_cons]
    have stays : ¬ p c = true := Bool.eq_false_iff.mp (kept c last)
    rw [dropLastWhile, reversed, List.dropWhile_cons, if_neg stays, ← reversed,
      List.reverse_reverse]

theorem mem_of_mem_dropLastWhile {p : Char → Bool} {c : Char} {cs : List Char}
    (member : c ∈ dropLastWhile p cs) : c ∈ cs := by
  rw [dropLastWhile, List.mem_reverse] at member
  exact List.mem_reverse.mp ((List.dropWhile_sublist p).subset member)

theorem dropWhile_of_head {p : Char → Bool} {cs : List Char}
    (kept : ∀ c, cs.head? = some c → p c = false) : cs.dropWhile p = cs := by
  cases cs with
  | nil => rfl
  | cons c rest => rw [List.dropWhile_cons, if_neg (Bool.eq_false_iff.mp (kept c rfl))]

theorem dropWhile_concat {p : Char → Bool} {c : Char} (dropped : p c = true) (cs : List Char) :
    (cs ++ [c]).dropWhile p = [] ∧ cs.dropWhile p = [] ∨
      (cs ++ [c]).dropWhile p = cs.dropWhile p ++ [c] := by
  rw [List.dropWhile_append]
  by_cases nothing : (cs.dropWhile p).isEmpty = true
  · rw [if_pos nothing, List.dropWhile_cons, if_pos dropped]
    exact .inl ⟨rfl, List.isEmpty_iff.mp nothing⟩
  · rw [if_neg nothing]
    exact .inr rfl

theorem trimChars_concat {c : Char} (blank : isBlank c = true) (cs : List Char) :
    trimChars (cs ++ [c]) = trimChars cs := by
  rcases dropWhile_concat blank cs with ⟨left, right⟩ | same
  · rw [trimChars, trimChars, left, right]
  · rw [trimChars, trimChars, same, dropLastWhile_concat blank]

theorem trimChars_of_ends {cs : List Char} (first : ∀ c, cs.head? = some c → isBlank c = false)
    (last : ∀ c, cs.getLast? = some c → isBlank c = false) : trimChars cs = cs := by
  rw [trimChars, dropWhile_of_head first, dropLastWhile_of_last last]

theorem mem_of_mem_trimChars {c : Char} {cs : List Char} (member : c ∈ trimChars cs) : c ∈ cs :=
  (List.dropWhile_sublist isBlank).subset (mem_of_mem_dropLastWhile member)

end BearerGate.Text
