import Dossier.Sql.Query

/-!
# The tokens of a statement

A database sees a statement as text. Here a text is taken apart into tokens by the lexical rules of
SQL: words and operators run as far as they can, a quotation ends at its quotation mark unless that
is written twice, and a placeholder is a dollar sign with digits.

**Statements.** A statement is printed piece by piece, and pieces could run into each other: a word
into a digit, a quotation into the next. A statement is `Spaced` when this does not happen, whatever
parenthesis, comma or blank comes next. Then the tokens of its text are those of its pieces
(`lexFrom_chars`): fixed text gives its own tokens, a literal its content however many quotation
marks or dollar signs that has, and the parameters are placeholders that count up.
-/

namespace Dossier

namespace Sql

/-! ## Tokens -/

/-- A token of SQL text. A placeholder carries its number, or what is put in its place. -/
inductive Token (α : Type) where
  /-- A keyword or a name without quotation marks, in lower case. -/
  | word (s : String)
  /-- A name in double quotation marks. -/
  | name (s : String)
  /-- The content of a text in single quotation marks. -/
  | text (s : String)
  | number (n : Nat)
  | placeholder (a : α)
  | sign (s : String)
  /-- A character that is a token by itself, such as a parenthesis or a comma. -/
  | mark (c : Char)
deriving DecidableEq

namespace Token

variable {α β : Type}

/-- The token with something else in the place of a placeholder. -/
def map (f : α → β) : Token α → Token β
  | .word s => .word s
  | .name s => .name s
  | .text s => .text s
  | .number n => .number n
  | .placeholder a => .placeholder (f a)
  | .sign s => .sign s
  | .mark c => .mark c

def placeholder? : Token α → Option α
  | .placeholder a => some a
  | _ => none

end Token

/-! ## Reading text -/

def isWordStart (c : Char) : Bool := c.isAlpha || c == '_'

def isWordPart (c : Char) : Bool := c.isAlphanum || c == '_' || c == '$'

/-- Characters of operators; the colon is one of them for the sake of casts. -/
def isSignPart (c : Char) : Bool :=
  ['+', '-', '*', '/', '<', '>', '=', '~', '!', '@', '#', '%', '^', '&', '|', '?', ':'].contains c

/-- Where a reader stands: between tokens, or within one, with what it has of it. -/
inductive Scan where
  | between
  | word (cs : List Char)
  | number (n : Nat)
  | placeholder (n : Nat)
  | sign (cs : List Char)
  | name (cs : List Char)
  /-- Behind a double quotation mark that ends a name, unless a second one follows. -/
  | closedName (cs : List Char)
  | text (cs : List Char)
  /-- Behind a single quotation mark that ends a text, unless a second one follows. -/
  | closedText (cs : List Char)
deriving DecidableEq

namespace Scan

/-- A character that goes on with the token at hand. -/
def extend? : Scan → Char → Option Scan
  | .between, _ => none
  | .word cs, c => if isWordPart c then some (.word (cs ++ [c.toLower])) else none
  | .number n, c => if c.isDigit then some (.number (10 * n + (c.toNat - 48))) else none
  | .placeholder n, c => if c.isDigit then some (.placeholder (10 * n + (c.toNat - 48))) else none
  | .sign cs, c => if isSignPart c then some (.sign (cs ++ [c])) else none
  | .name cs, c => some (if c = '"' then .closedName cs else .name (cs ++ [c]))
  | .closedName cs, c => if c = '"' then some (.name (cs ++ [c])) else none
  | .text cs, c => some (if c = '\'' then .closedText cs else .text (cs ++ [c]))
  | .closedText cs, c => if c = '\'' then some (.text (cs ++ [c])) else none

/-- The token at hand, if any. A quotation that is not closed leaves its quotation mark. -/
def finish : Scan → List (Token Nat)
  | .between => []
  | .word cs => [.word (String.ofList cs)]
  | .number n => [.number n]
  | .placeholder n => [.placeholder n]
  | .sign cs => [.sign (String.ofList cs)]
  | .name _ => [.mark '"']
  | .closedName cs => [.name (String.ofList cs)]
  | .text _ => [.mark '\'']
  | .closedText cs => [.text (String.ofList cs)]

/-- A character between tokens: where it leads, and the token it is, if it is one by itself. -/
def start (c : Char) : Scan × List (Token Nat) :=
  if isWordStart c then (.word [c.toLower], [])
  else if c.isDigit then (.number (c.toNat - 48), [])
  else if isSignPart c then (.sign [c], [])
  else if c = '$' then (.placeholder 0, [])
  else if c = '\'' then (.text [], [])
  else if c = '"' then (.name [], [])
  else if c = ' ' || c = '\n' then (.between, [])
  else (.between, [.mark c])

def after (scan : Scan) (cs : List Char) : Scan :=
  cs.foldl (fun scan c => (scan.extend? c).getD (start c).1) scan

end Scan

namespace Scan

variable {scan mid next : Scan} {s t : String}

theorem after_literal {cs : List Char} (h : scan.after cs = next) :
    scan.after (String.ofList cs).toList = next := by
  rwa [String.toList_ofList]

theorem after_join (hs : scan.after s.toList = mid) (ht : mid.after t.toList = next) :
    scan.after (s ++ t).toList = next := by
  rw [String.toList_append, after, List.foldl_append]
  exact (congrArg (fun scan : Scan => scan.after t.toList) hs).trans ht

end Scan

/-- The tokens of a text, read on from somewhere. -/
def lexFrom (scan : Scan) : List Char → List (Token Nat)
  | [] => scan.finish
  | c :: cs =>
    match scan.extend? c with
    | some scan => lexFrom scan cs
    | none => scan.finish ++ (Scan.start c).2 ++ lexFrom (Scan.start c).1 cs

def lex (s : String) : List (Token Nat) := lexFrom .between s.toList

/-- **Where the second of two texts does not go on with the last token of the first, the tokens of
both are those of the one and then those of the other.** -/
theorem lexFrom_append {scan : Scan} {cs ds : List Char}
    (h : ∀ d ∈ ds.head?, (scan.after cs).extend? d = none) :
    lexFrom scan (cs ++ ds) = lexFrom scan cs ++ lexFrom .between ds := by
  induction cs generalizing scan with
  | nil =>
    cases ds with
    | nil => simp [lexFrom, Scan.finish]
    | cons d ds =>
      have hd : scan.extend? d = none := h d rfl
      have hbetween : Scan.between.extend? d = none := rfl
      simp only [List.nil_append, lexFrom, hd, hbetween, List.append_assoc, Scan.finish]
  | cons c cs ih =>
    rw [List.cons_append, lexFrom, lexFrom]
    cases hc : scan.extend? c with
    | some next =>
      refine ih fun d hd => ?_
      have := h d hd
      rwa [Scan.after, List.foldl_cons, hc] at this
    | none =>
      have hrest : lexFrom (Scan.start c).1 (cs ++ ds) =
          lexFrom (Scan.start c).1 cs ++ lexFrom .between ds := by
        refine ih fun d hd => ?_
        have := h d hd
        rwa [Scan.after, List.foldl_cons, hc] at this
      simp only [hrest, List.append_assoc]

/-! ## Printed pieces -/

namespace Piece

def chars (next : Nat) : Piece → List Char
  | .fixed s => s.toList
  | .quoted s => '\'' :: doubleQuotes s.toList ++ ['\'']
  | .param _ => '$' :: Nat.toDigits 10 next

def tokens (next : Nat) : Piece → List (Token Nat)
  | .fixed s => lex s
  | .quoted s => [.text s]
  | .param _ => [.placeholder next]

/-- Where a piece leads; the number of a placeholder does not matter for what may follow it. -/
def scan : Piece → Scan
  | .fixed s => Scan.after .between s.toList
  | .quoted s => .closedText s.toList
  | .param _ => .placeholder 0

def first? : Piece → Option Char
  | .fixed s => s.toList.head?
  | .quoted _ => some '\''
  | .param _ => some '$'

end Piece

/-! ## Tokens of pieces -/

section Extend

variable {scan next : Scan} {cs : List Char} (ds : List Char)

/-- Characters that go on with the token at hand, one after the other. -/
theorem lexFrom_extend (h : cs.foldlM Scan.extend? scan = some next) :
    lexFrom scan (cs ++ ds) = lexFrom next ds := by
  induction cs generalizing scan with
  | nil =>
    cases h
    rfl
  | cons c cs ih =>
    obtain ⟨mid, hc, hcs⟩ := Option.bind_eq_some_iff.1 h
    rw [List.cons_append, lexFrom, hc]
    exact ih hcs

theorem after_extend (h : cs.foldlM Scan.extend? scan = some next) :
    scan.after (cs ++ ds) = next.after ds := by
  induction cs generalizing scan with
  | nil =>
    cases h
    rfl
  | cons c cs ih =>
    obtain ⟨mid, hc, hcs⟩ := Option.bind_eq_some_iff.1 h
    rw [List.cons_append, Scan.after, List.foldl_cons, hc]
    exact ih hcs

/-- The digits of a number go on with a placeholder. -/
theorem extend_digits (hcs : ∀ c ∈ cs, c.isDigit = true) (n : Nat) :
    cs.foldlM Scan.extend? (.placeholder n) = some (.placeholder (Nat.ofDigitChars 10 cs n)) := by
  induction cs generalizing n with
  | nil => rfl
  | cons c cs ih =>
    obtain ⟨hc, hcs⟩ := List.forall_mem_cons.1 hcs
    rw [List.foldlM_cons, Scan.extend?, if_pos hc, Nat.ofDigitChars_cons]
    exact ih hcs _

/-- What is quoted goes on with a text, a doubled quotation mark as a single one. -/
theorem extend_doubleQuotes (cs ds : List Char) :
    (doubleQuotes ds).foldlM Scan.extend? (.text cs) = some (.text (cs ++ ds)) := by
  induction ds generalizing cs with
  | nil =>
    rw [List.append_nil]
    rfl
  | cons d ds ih =>
    have hsplit : cs ++ d :: ds = cs ++ [d] ++ ds := by simp
    rw [doubleQuotes, hsplit]
    split
    · rename_i hd
      subst hd
      exact ih (cs ++ ['\''])
    · rename_i hd
      rw [List.foldlM_cons, Scan.extend?, if_neg hd]
      exact ih (cs ++ [d])

end Extend

namespace Piece

variable (p : Piece) (next : Nat)

theorem extend_param :
    (Nat.toDigits 10 next).foldlM Scan.extend? (.placeholder 0) = some (.placeholder next) := by
  rw [extend_digits fun c hc => Nat.isDigit_of_mem_toDigits (by decide) (by decide) hc,
    Nat.ofDigitChars_ten_toDigits]

theorem lexFrom_chars : lexFrom .between (p.chars next) = p.tokens next := by
  cases p with
  | fixed s => rfl
  | quoted s =>
    have h := lexFrom_extend ['\''] (extend_doubleQuotes [] s.toList)
    exact h.trans (by simp [lexFrom, Scan.extend?, Scan.finish, tokens])
  | param v =>
    have h := lexFrom_extend [] (extend_param next)
    rw [List.append_nil] at h
    exact h

theorem isNone_after_chars (c : Char) :
    ((Scan.after .between (p.chars next)).extend? c).isNone = (p.scan.extend? c).isNone := by
  cases p with
  | fixed s => rfl
  | quoted s =>
    have h := after_extend ['\''] (extend_doubleQuotes [] s.toList)
    exact congrArg (fun scan => (scan.extend? c).isNone) h
  | param v =>
    have h := after_extend [] (extend_param next)
    rw [List.append_nil] at h
    rw [chars, Scan.after, List.foldl_cons]
    refine (congrArg (fun scan => (scan.extend? c).isNone) h).trans ?_
    show (if _ then _ else _ : Option Scan).isNone = (if _ then _ else _ : Option Scan).isNone
    cases c.isDigit <;> rfl

end Piece

/-! ## Statements -/

def Piece.count : Piece → Nat
  | .param _ => 1
  | _ => 0

namespace Statement

/-- The text of a statement whose first parameter has a given number. -/
def textFrom (next : Nat) (statement : Statement) : String := String.join (printed next statement)

/-- The characters of a statement whose first parameter has a given number. -/
def chars (next : Nat) : Statement → List Char
  | [] => []
  | p :: rest => p.chars next ++ chars (next + p.count) rest

/-- The tokens of the pieces of a statement whose first parameter has a given number. -/
def tokens (next : Nat) : Statement → List (Token Nat)
  | [] => []
  | p :: rest => p.tokens next ++ tokens (next + p.count) rest

theorem params_cons (p : Piece) (rest : Statement) :
    params (p :: rest) = (match p with | .param v => [v] | _ => []) ++ params rest := by
  cases p <;> rfl

theorem length_params_cons (p : Piece) (rest : Statement) :
    (params (p :: rest)).length = p.count + (params rest).length := by
  cases p <;> simp [params_cons, Piece.count, Nat.add_comm]

@[simp] theorem params_append (a b : Statement) : params (a ++ b) = params a ++ params b :=
  List.filterMap_append

variable (a b : Statement) (next : Nat)

theorem toList_textFrom : (textFrom next a).toList = chars next a := by
  rw [textFrom, String.toList_join]
  induction a generalizing next with
  | nil => rfl
  | cons p rest ih =>
    cases p with
    | fixed s | quoted s => simp [printed, chars, Piece.chars, Piece.count, literal, ih]
    | param v =>
      have hdollar : (toString "$").toList = ['$'] := rfl
      simp [printed, chars, Piece.chars, Piece.count, hdollar, ih]

theorem chars_append :
    chars next (a ++ b) = chars next a ++ chars (next + (params a).length) b := by
  induction a generalizing next with
  | nil => rfl
  | cons p rest ih =>
    rw [List.cons_append, chars, chars, ih, length_params_cons, List.append_assoc, Nat.add_assoc]

theorem tokens_append :
    tokens next (a ++ b) = tokens next a ++ tokens (next + (params a).length) b := by
  induction a generalizing next with
  | nil => rfl
  | cons p rest ih =>
    rw [List.cons_append, tokens, tokens, ih, length_params_cons, List.append_assoc, Nat.add_assoc]

end Statement

/-! ## Spacing -/

/-- Whether a character ends every token that stands before it outside quotation marks. -/
def isEnd (c : Char) : Bool := c == ' ' || c == ')' || c == ','

/-- A text that ends the tokens before it. -/
def Ends (cs : List Char) : Prop := ∀ c ∈ cs.head?, isEnd c = true

/-- Whether a place in a text lies between tokens once a character comes that ends them. -/
def Scan.closed (scan : Scan) : Bool := [' ', ')', ','].all fun c => (scan.extend? c).isNone

theorem Scan.extend?_of_closed {scan : Scan} (h : scan.closed = true) {c : Char}
    (hc : isEnd c = true) : scan.extend? c = none := by
  simp only [Scan.closed, List.all_cons, List.all_nil, Bool.and_true, Bool.and_eq_true,
    Option.isNone_iff_eq_none] at h
  simp only [isEnd, Bool.or_eq_true, beq_iff_eq] at hc
  rcases hc with (rfl | rfl) | rfl
  · exact h.1
  · exact h.2.1
  · exact h.2.2

namespace Statement

/-- Whether no piece of a statement goes on with the token at which the piece before it ends. -/
def apart (scan : Scan) : Statement → Bool
  | [] => scan.closed
  | p :: rest => p.first?.any (fun c => (scan.extend? c).isNone) && apart p.scan rest

/-- A statement whose text is made of the tokens of its pieces, if what comes next ends a token. -/
def Spaced (statement : Statement) : Prop :=
  ∀ next rest, Ends rest →
    lexFrom .between (chars next statement ++ rest) =
      tokens next statement ++ lexFrom .between rest

variable {a b : Statement}

theorem first?_of_chars {p : Piece} {next : Nat} {rest : List Char} {c : Char}
    (hp : p.first?.isSome) (hc : c ∈ (p.chars next ++ rest).head?) : p.first? = some c := by
  cases p with
  | fixed s =>
    obtain ⟨d, hd⟩ := Option.isSome_iff_exists.1 hp
    have hs : s.toList.head? = some d := hd
    rw [Piece.chars, List.head?_append, hs] at hc
    cases hc
    exact hd
  | quoted s | param v =>
    cases hc
    rfl

theorem extend?_of_apart {scan : Scan} (h : apart scan a = true) {next : Nat} {rest : List Char}
    (hrest : Ends rest) : ∀ c ∈ (chars next a ++ rest).head?, scan.extend? c = none := by
  intro c hc
  cases a with
  | nil => exact Scan.extend?_of_closed h (hrest c hc)
  | cons p others =>
    rw [apart, Bool.and_eq_true, Option.any_eq_true_iff_get] at h
    obtain ⟨⟨hsome, hfirst⟩, -⟩ := h
    rw [chars, List.append_assoc] at hc
    have hget := first?_of_chars hsome hc
    simpa [hget] using hfirst

/-- **A statement whose pieces are apart is spaced.** -/
theorem spaced_of_apart (h : apart .between a = true) : Spaced a := by
  suffices hall : ∀ scan, apart scan a = true → Spaced a from hall _ h
  clear h
  induction a with
  | nil => exact fun _ _ _ _ _ => rfl
  | cons p others ih =>
    intro scan h next rest hrest
    rw [apart, Bool.and_eq_true] at h
    have happart : ∀ c ∈ (chars (next + p.count) others ++ rest).head?,
        (Scan.after .between (p.chars next)).extend? c = none := by
      intro c hc
      have := extend?_of_apart h.2 hrest c hc
      rwa [← Option.isNone_iff_eq_none, p.isNone_after_chars, Option.isNone_iff_eq_none]
    rw [chars, tokens, List.append_assoc, lexFrom_append happart, p.lexFrom_chars,
      ih p.scan h.2 _ _ hrest, List.append_assoc]

section Apart

variable {scan : Scan} {rest : Statement}

theorem apart_fixed {next : Scan} {c : Char} {cs : List Char}
    (hfirst : (scan.extend? c).isNone = true) (hnext : Scan.after .between (c :: cs) = next)
    (hrest : apart next rest = true) : apart scan (.fixed (String.ofList (c :: cs)) :: rest) = true := by
  rw [apart, Piece.scan, Piece.first?, String.toList_ofList, hnext, hrest]
  simpa using hfirst

theorem apart_quoted {s : String} (hfirst : (scan.extend? '\'').isNone = true)
    (hrest : apart (.closedText s.toList) rest = true) : apart scan (.quoted s :: rest) = true := by
  rw [apart, Piece.scan, Piece.first?, hrest]
  simpa using hfirst

end Apart

theorem Spaced.nil : Spaced [] := fun _ _ _ => rfl

/-- Spaced statements can stand one after the other where the second begins with an end. -/
theorem Spaced.append (ha : Spaced a) (hb : Spaced b) (hlead : ∀ next, Ends (chars next b)) :
    Spaced (a ++ b) := by
  intro next rest hrest
  have hends : Ends (chars (next + (params a).length) b ++ rest) := by
    intro c hc
    rw [List.head?_append] at hc
    cases hhead : (chars (next + (params a).length) b).head? with
    | none =>
      rw [hhead] at hc
      exact hrest c hc
    | some d =>
      rw [hhead] at hc
      cases hc
      exact hlead _ _ hhead
  rw [chars_append, tokens_append, List.append_assoc, ha _ _ hends, hb _ _ hrest,
    List.append_assoc]

/-- Fixed text that ends between tokens can stand before a spaced statement. -/
theorem Spaced.cons {s : String} (hs : Scan.after .between s.toList = .between) (ha : Spaced a) :
    Spaced (.fixed s :: a) := by
  intro next rest hrest
  have hnone : ∀ c ∈ (chars next a ++ rest).head?, (Scan.after .between s.toList).extend? c = none := by
    intro c _
    rw [hs]
    rfl
  show lexFrom .between (s.toList ++ chars next a ++ rest) = lex s ++ tokens next a ++ _
  rw [List.append_assoc, lexFrom_append hnone, ha _ _ hrest, List.append_assoc]
  rfl

/-- **The tokens of the text of a spaced statement are those of its pieces.** -/
theorem Spaced.lex_textFrom (ha : Spaced a) (next : Nat) : lex (textFrom next a) = tokens next a := by
  have h := ha next [] (by simp [Ends])
  rw [List.append_nil] at h
  rw [lex, toList_textFrom, h]
  exact List.append_nil _

end Statement

end Sql

end Dossier
