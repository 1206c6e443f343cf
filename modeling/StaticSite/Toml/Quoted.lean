import StaticSite.Toml.Blank

set_option relaxedAutoImplicit false
set_option autoImplicit false

/-!
# TOML strings

A string stands between double quotes, with escapes, or between single quotes, as it is; three
quotes on either side let it run over several lines.

## Main definitions

* `StaticSite.Toml.escape?` — the character that an escape stands for.
* `StaticSite.Toml.basic?`, `StaticSite.Toml.literal?` — strings on one line.
* `StaticSite.Toml.multiLineBasic?`, `StaticSite.Toml.multiLineLiteral?` — strings over lines.
* `StaticSite.Toml.quoted?` — a string of any kind.
-/

namespace StaticSite.Toml

/-! ## Escapes -/

/-- The value of a hexadecimal digit. -/
def hexDigit? (c : Char) : Option Nat :=
  if c.isDigit then some (c.toNat - '0'.toNat)
  else if 'a' ≤ c ∧ c ≤ 'f' then some (c.toNat - 'a'.toNat + 10)
  else if 'A' ≤ c ∧ c ≤ 'F' then some (c.toNat - 'A'.toNat + 10)
  else none

/-- The character whose code point is written in hexadecimal digits. Surrogates and numbers
beyond the last code point denote none. -/
def codePoint? (digits : Text) : Option Char := do
  let values ← digits.mapM hexDigit?
  let n := values.foldl (fun n d => 16 * n + d) 0
  if h : n.isValidChar then some (Char.ofNatAux n h) else none

/-- The character that a letter stands for behind a backslash. -/
def escape? : Char → Option Char
  | 'b' => some '\x08'
  | 't' => some '\t'
  | 'n' => some '\n'
  | 'f' => some '\x0c'
  | 'r' => some '\r'
  | '"' => some '"'
  | '\\' => some '\\'
  | _ => none

/-- A text that was read and what follows it, with one more character in front. -/
def withChar (c : Char) : Option (Text × Text) → Option (Text × Text) :=
  Option.map fun r => (c :: r.1, r.2)

/-! ## Strings on one line -/

/-- What follows the opening double quote: the string, and the text behind it. -/
def basic? : Text → Option (Text × Text)
  | [] => none
  | '"' :: t => some ([], t)
  | '\\' :: 'u' :: a :: b :: c :: d :: t => do withChar (← codePoint? [a, b, c, d]) (basic? t)
  | '\\' :: 'U' :: a :: b :: c :: d :: e :: f :: g :: h :: t => do
    withChar (← codePoint? [a, b, c, d, e, f, g, h]) (basic? t)
  | '\\' :: c :: t => do withChar (← escape? c) (basic? t)
  | c :: t => if isPlain c && c != '\\' then withChar c (basic? t) else none

/-- What follows the opening single quote: the string, and the text behind it. -/
def literal? : Text → Option (Text × Text)
  | [] => none
  | '\'' :: t => some ([], t)
  | c :: t => if isPlain c then withChar c (literal? t) else none

/-! ## Strings over several lines -/

/-- What follows three quotes inside a string over lines: they end it, and up to two more
quotes belong to it. -/
def closing (quote : Char) : Text → Text × Text
  | a :: b :: t =>
    if a = quote then if b = quote then ([quote, quote], t) else ([quote], b :: t)
    else ([], a :: b :: t)
  | [a] => if a = quote then ([quote], []) else ([], [a])
  | [] => ([], [])

/-- The text behind blanks and line ends. -/
def skipSpace : Text → Text
  | '\r' :: '\n' :: t => skipSpace t
  | c :: t => if c = '\n' || isBlank c then skipSpace t else c :: t
  | [] => []

/-- Blanks and line ends make a text no longer. -/
theorem length_skipSpace_le (t : Text) : (skipSpace t).length ≤ t.length := by
  fun_induction skipSpace t with
  | case1 t ih => simp only [List.length_cons]; omega
  | case2 c t _ _ ih => simp only [List.length_cons]; omega
  | case3 => exact Nat.le_refl _
  | case4 => exact Nat.le_refl _

/-- The text behind a backslash that ends its line, and behind the white space that follows. -/
def joinedLine? (t : Text) : Option Text := (newline? (skipBlanks t)).map skipSpace

/-- A line end takes at least one character. -/
theorem length_newline?_lt {t rest : Text} (h : newline? t = some rest) :
    rest.length < t.length := by
  unfold newline? at h
  split at h
  · obtain rfl := Option.some.inj h
    exact Nat.lt_succ_self _
  · obtain rfl := Option.some.inj h
    simp only [List.length_cons]
    omega
  · contradiction

/-- A joined line takes at least one character. -/
theorem length_joinedLine?_lt {t rest : Text} (h : joinedLine? t = some rest) :
    rest.length < t.length := by
  obtain ⟨u, hu, rfl⟩ := Option.map_eq_some_iff.1 h
  have h₁ := length_newline?_lt hu
  have h₂ := length_skipBlanks_le t
  have h₃ := length_skipSpace_le u
  omega

/-- What follows the three opening double quotes: the string, and the text behind it. -/
def multiLineBasic? : Text → Option (Text × Text)
  | [] => none
  | '"' :: '"' :: '"' :: t => some (closing '"' t)
  | '\r' :: '\n' :: t => withChar '\n' (multiLineBasic? t)
  | '\\' :: 'u' :: a :: b :: c :: d :: t => do
    withChar (← codePoint? [a, b, c, d]) (multiLineBasic? t)
  | '\\' :: 'U' :: a :: b :: c :: d :: e :: f :: g :: h :: t => do
    withChar (← codePoint? [a, b, c, d, e, f, g, h]) (multiLineBasic? t)
  | '\\' :: c :: t =>
    match escape? c with
    | some e => withChar e (multiLineBasic? t)
    | none =>
      match _h : joinedLine? (c :: t) with
      | some rest => multiLineBasic? rest
      | none => none
  | c :: t =>
    if c = '\n' || isPlain c && c != '\\' then withChar c (multiLineBasic? t) else none
termination_by t => t.length
decreasing_by
  all_goals simp_wf
  all_goals try omega
  have h := length_joinedLine?_lt _h
  simp only [List.length_cons] at h
  omega

/-- What follows the three opening single quotes: the string, and the text behind it. -/
def multiLineLiteral? : Text → Option (Text × Text)
  | [] => none
  | '\'' :: '\'' :: '\'' :: t => some (closing '\'' t)
  | '\r' :: '\n' :: t => withChar '\n' (multiLineLiteral? t)
  | c :: t => if c = '\n' || isPlain c then withChar c (multiLineLiteral? t) else none

/-- A text without a line end at its start. -/
def dropNewline (t : Text) : Text := (newline? t).getD t

/-- A string of any kind, and the text behind it. A line end right behind three opening quotes
does not belong to the string. -/
def quoted? : Text → Option (Text × Text)
  | '"' :: '"' :: '"' :: t => multiLineBasic? (dropNewline t)
  | '"' :: t => basic? t
  | '\'' :: '\'' :: '\'' :: t => multiLineLiteral? (dropNewline t)
  | '\'' :: t => literal? t
  | _ => none

end StaticSite.Toml
