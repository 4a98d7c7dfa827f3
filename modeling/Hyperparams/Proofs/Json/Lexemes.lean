import Mathlib.Data.List.TakeWhile
import Hyperparams.Json.Reader
import Hyperparams.Proofs.Decimal.Literals

/-!
# What the scanner reads

Lexemes are only ever added, so the scanner is described by what it adds behind what it has read. A
word ends where a character follows that cannot continue it, and inside of a string the next lexeme
is a string; so a text whose only lexeme is a number is that number with white space around it.
-/

namespace Hyperparams.Json

variable {read rest cs w : List Char} {c : Char} {out tokens : List Token} {mode : Mode}
  {s : Scanner}

namespace Scanner

def behind (tokens : List Token) (s : Scanner) : Scanner :=
  { s with tokens := s.tokens ++ tokens }

theorem behind_behind (s : Scanner) (tokens others : List Token) :
    behind tokens (behind others s) = behind (others ++ tokens) s := by
  simp [behind]

theorem start_behind (tokens : List Token) (c : Char) :
    start tokens c = (start [] c).map (behind tokens) := by
  unfold start
  split
  · rfl
  · split <;> try rfl
    split <;> rfl

theorem start_append (read tokens : List Token) (c : Char) :
    start (read ++ tokens) c = (start read c).map (behind tokens) := by
  rw [start_behind, start_behind read, Option.map_map]
  exact congrArg (fun f => (start [] c).map f) (funext fun s => (behind_behind s _ _).symm)

/-- A step looks at the mode alone. -/
theorem step_behind (s : Scanner) (tokens : List Token) (c : Char) :
    (behind tokens s).step c = (s.step c).map (behind tokens) := by
  obtain ⟨mode, read⟩ := s
  cases mode with
  | idle => exact start_append read tokens c
  | word w =>
      simp only [step, behind]
      split
      · rfl
      · cases Token.ofWord? w.reverse with
        | none => rfl
        | some token => exact start_append (token :: read) tokens c
  | text w =>
      simp only [step, behind]
      split_ifs <;> rfl
  | escape w =>
      simp only [step, behind]
      cases Mode.ofEscape? w c <;> rfl
  | code w high left value =>
      simp only [step, behind]
      cases Text.hexValue? c with
      | none => rfl
      | some digit =>
          simp only [Option.bind_some]
          split
          · cases Mode.ofCode? w high (16 * value + digit) <;> rfl
          · rfl
  | half w high =>
      simp only [step, behind]
      split_ifs <;> rfl
  | halfEscape w high =>
      simp only [step, behind]
      split_ifs <;> rfl

theorem finish_behind (s : Scanner) (tokens : List Token) :
    (behind tokens s).finish = s.finish.map (tokens.reverse ++ ·) := by
  obtain ⟨mode, read⟩ := s
  cases mode with
  | idle => simp [finish, behind]
  | word w => cases h : Token.ofWord? w.reverse <;> simp [finish, behind, h]
  | _ => rfl

/-- Lexemes that were read before stay in front of those to come. -/
theorem foldlM_behind (s : Scanner) (tokens : List Token) (cs : List Char) :
    cs.foldlM step (behind tokens s) = (cs.foldlM step s).map (behind tokens) := by
  induction cs generalizing s with
  | nil => rfl
  | cons c cs ih =>
      rw [List.foldlM_cons, List.foldlM_cons, step_behind]
      cases s.step c with
      | none => rfl
      | some next => exact ih next

end Scanner

/-- The lexemes that a scanner in a mode adds over a text. -/
def Mode.scan? (mode : Mode) (cs : List Char) : Option (List Token) :=
  (cs.foldlM Scanner.step ⟨mode, []⟩).bind Scanner.finish

theorem scan?_eq (cs : List Char) : Token.scan? cs = Mode.idle.scan? cs := rfl

namespace Mode

open Scanner

/-- What is behind a part of the text is read in the mode that the part leads to. -/
theorem scan?_append (mode : Mode) (cs rest : List Char) :
    mode.scan? (cs ++ rest) = (cs.foldlM step ⟨mode, []⟩).bind fun next =>
      (next.mode.scan? rest).map (next.tokens.reverse ++ ·) := by
  unfold scan?
  rw [List.foldlM_append, Option.bind_eq_bind, Option.bind_assoc]
  refine congrArg _ (funext fun next => ?_)
  have hrun : rest.foldlM step next =
      (rest.foldlM step ⟨next.mode, []⟩).map (behind next.tokens) :=
    foldlM_behind ⟨next.mode, []⟩ next.tokens rest
  rw [hrun]
  cases rest.foldlM step ⟨next.mode, []⟩ with
  | none => rfl
  | some last => exact finish_behind last next.tokens

/-- A character may complete lexemes, which come before those of the rest. -/
theorem scan?_cons (mode : Mode) (c : Char) (cs : List Char) :
    mode.scan? (c :: cs) = (step ⟨mode, []⟩ c).bind fun next =>
      (next.mode.scan? cs).map (next.tokens.reverse ++ ·) := by
  rw [← List.singleton_append, scan?_append, List.foldlM_cons]
  simp

section Start

/-- What a character between lexemes begins. -/
theorem start_cases (h : start [] c = some s) :
    isSpace c = true ∧ s = ⟨.idle, []⟩ ∨
      (∃ token, s = ⟨.idle, [token]⟩ ∧ ∀ n, token ≠ .number n) ∨
      s = ⟨.text [], []⟩ ∨ isWordChar c = true ∧ s = ⟨.word [c], []⟩ := by
  unfold start at h
  split at h
  next hspace => exact Or.inl ⟨hspace, (Option.some.inj h).symm⟩
  · split at h
    case h_7 => exact Or.inr (Or.inr (Or.inl (Option.some.inj h).symm))
    case h_8 =>
      split at h
      next hword => exact Or.inr (Or.inr (Or.inr ⟨hword, (Option.some.inj h).symm⟩))
      · cases h
    all_goals exact Or.inr (Or.inl ⟨_, (Option.some.inj h).symm, fun _ => nofun⟩)

/-- A character that can stand in a word begins one. -/
theorem start_word (h : isWordChar c = true) : start [] c = some ⟨.word [c], []⟩ := by
  have hspace : ¬isSpace c = true := by
    intro hspace
    simp only [isSpace, Bool.or_eq_true, beq_iff_eq] at hspace
    rcases hspace with ((rfl | rfl) | rfl) | rfl <;> exact absurd h (by decide)
  unfold start
  rw [if_neg hspace]
  split
  case h_8 => rw [if_pos h]
  all_goals exact absurd h (by decide)

end Start

section Words

/-- Characters of words extend the word that is being read. -/
theorem scan?_inside_word (hw : ∀ c ∈ w, isWordChar c = true) :
    (word read).scan? (w ++ rest) = (word (w.reverse ++ read)).scan? rest := by
  induction w generalizing read with
  | nil => rfl
  | cons c w ih =>
      obtain ⟨hc, hw⟩ := List.forall_mem_cons.mp hw
      have hstep : step ⟨.word read, []⟩ c = some ⟨.word (c :: read), []⟩ := by simp [step, hc]
      rw [List.cons_append, scan?_cons, hstep, Option.bind_some, ih hw]
      simp

/-- A word ends in front of any other character. -/
theorem scan?_behind_word (hrest : ∀ c ∈ rest.head?, isWordChar c = false) :
    (word read).scan? rest =
      (Token.ofWord? read.reverse).bind fun token => (idle.scan? rest).map (token :: ·) := by
  cases rest with
  | nil => cases h : Token.ofWord? read.reverse <;> simp [scan?, finish, h]
  | cons c rest =>
      have hstep : step ⟨.word read, []⟩ c =
          (Token.ofWord? read.reverse).bind fun token => (start [] c).map (behind [token]) := by
        simp [step, hrest c rfl, ← start_behind]
      have hidle : step ⟨.idle, []⟩ c = start [] c := rfl
      rw [scan?_cons, scan?_cons, hstep, hidle]
      cases Token.ofWord? read.reverse with
      | none => rfl
      | some token => cases start [] c <;> simp [behind, Function.comp_def]

/-- A word is one lexeme. -/
theorem scan?_word (hne : w ≠ []) (hw : ∀ c ∈ w, isWordChar c = true)
    (hrest : ∀ c ∈ rest.head?, isWordChar c = false) :
    idle.scan? (w ++ rest) =
      (Token.ofWord? w).bind fun token => (idle.scan? rest).map (token :: ·) := by
  cases w with
  | nil => exact absurd rfl hne
  | cons c w =>
      obtain ⟨hc, hw⟩ := List.forall_mem_cons.mp hw
      have hstep : step ⟨.idle, []⟩ c = some ⟨.word [c], []⟩ := start_word hc
      rw [List.cons_append, scan?_cons, hstep, Option.bind_some, scan?_inside_word hw,
        scan?_behind_word hrest]
      simp

end Words

section Strings

def isText : Mode → Bool
  | .idle => false
  | .word _ => false
  | _ => true

theorem isText_ofCode? {high : Option Nat} {code : Nat} {next : Mode}
    (h : ofCode? read high code = some next) : next.isText = true := by
  unfold ofCode? at h
  split at h
  · split at h <;> cases h
    rfl
  · split at h
    · cases h
      rfl
    · split at h <;> cases h
      rfl

theorem isText_ofEscape? {next : Mode} (h : ofEscape? read c = some next) : next.isText = true := by
  unfold ofEscape? at h
  split at h <;> cases h <;> rfl

/-- A string goes on or ends as a lexeme. -/
theorem step_text (hmode : mode.isText = true) (h : step ⟨mode, []⟩ c = some s) :
    s.mode.isText = true ∧ s.tokens = [] ∨ ∃ text, s = ⟨.idle, [.string text]⟩ := by
  cases mode with
  | idle => cases hmode
  | word w => cases hmode
  | text w =>
      simp only [step] at h
      split_ifs at h <;> cases h
      · exact Or.inr ⟨_, rfl⟩
      · exact Or.inl ⟨rfl, rfl⟩
      · exact Or.inl ⟨rfl, rfl⟩
  | escape w =>
      obtain ⟨next, hnext, rfl⟩ := Option.map_eq_some_iff.mp h
      exact Or.inl ⟨isText_ofEscape? hnext, rfl⟩
  | code w high left value =>
      obtain ⟨digit, -, h⟩ := Option.bind_eq_some_iff.mp h
      dsimp only at h
      split_ifs at h
      · obtain ⟨next, hnext, rfl⟩ := Option.map_eq_some_iff.mp h
        exact Or.inl ⟨isText_ofCode? hnext, rfl⟩
      · cases h
        exact Or.inl ⟨rfl, rfl⟩
  | half w high =>
      simp only [step] at h
      split_ifs at h
      cases h
      exact Or.inl ⟨rfl, rfl⟩
  | halfEscape w high =>
      simp only [step] at h
      split_ifs at h
      cases h
      exact Or.inl ⟨rfl, rfl⟩

/-- Inside of a string the next lexeme is a string. -/
theorem exists_string (hmode : mode.isText = true) (h : mode.scan? cs = some out) :
    ∃ text more, out = .string text :: more := by
  induction cs generalizing mode out with
  | nil => cases mode <;> cases hmode <;> cases h
  | cons c cs ih =>
      rw [scan?_cons] at h
      obtain ⟨next, hnext, h⟩ := Option.bind_eq_some_iff.mp h
      obtain ⟨more, hmore, rfl⟩ := Option.map_eq_some_iff.mp h
      rcases step_text hmode hnext with ⟨htext, htokens⟩ | ⟨text, rfl⟩
      · rw [htokens]
        exact ih htext hmore
      · exact ⟨text, more, rfl⟩

end Strings

section Spaces

/-- White space between lexemes does not matter. -/
theorem scan?_space {spaces : List Char} (h : ∀ c ∈ spaces, isSpace c = true) :
    idle.scan? (spaces ++ rest) = idle.scan? rest := by
  induction spaces with
  | nil => rfl
  | cons c spaces ih =>
      obtain ⟨hc, hspaces⟩ := List.forall_mem_cons.mp h
      have hstep : step ⟨.idle, []⟩ c = some ⟨.idle, []⟩ := by simp [step, start, hc]
      rw [List.cons_append, scan?_cons, hstep, Option.bind_some, ih hspaces]
      simp

/-- The first lexeme is a whole word, or no number. -/
theorem exists_first (hc : isSpace c = false) (h : idle.scan? (c :: cs) = some out) :
    ∃ token more, out = token :: more ∧ ((∀ n, token ≠ .number n) ∨
      ∃ w rest, c :: cs = w ++ rest ∧ (∀ d ∈ w, isWordChar d = true) ∧
        Token.ofWord? w = some token ∧ idle.scan? rest = some more) := by
  have hcons := h
  rw [scan?_cons] at hcons
  obtain ⟨next, hnext, hcons⟩ := Option.bind_eq_some_iff.mp hcons
  obtain ⟨more, hmore, rfl⟩ := Option.map_eq_some_iff.mp hcons
  rcases start_cases hnext with ⟨hspace, -⟩ | ⟨token, rfl, hnumber⟩ | rfl | ⟨hword, rfl⟩
  · rw [hc] at hspace
    cases hspace
  · exact ⟨token, more, rfl, Or.inl hnumber⟩
  · obtain ⟨text, others, rfl⟩ := exists_string rfl hmore
    exact ⟨_, _, rfl, Or.inl fun _ => nofun⟩
  · have hsplit := List.takeWhile_append_dropWhile (p := isWordChar) (l := c :: cs)
    have hwords : ∀ d ∈ (c :: cs).takeWhile isWordChar, isWordChar d = true :=
      fun d hd => List.mem_takeWhile_imp hd
    have hrest : ∀ d ∈ ((c :: cs).dropWhile isWordChar).head?, isWordChar d = false := by
      intro d hd
      have := List.head?_dropWhile_not isWordChar (c :: cs)
      rw [Option.mem_def.mp hd] at this
      exact this
    have hne : (c :: cs).takeWhile isWordChar ≠ [] := by simp [hword]
    rw [← hsplit, scan?_word hne hwords hrest] at h
    obtain ⟨token, htoken, h⟩ := Option.bind_eq_some_iff.mp h
    obtain ⟨others, hothers, hout⟩ := Option.map_eq_some_iff.mp h
    exact ⟨token, others, hout.symm, Or.inr ⟨_, _, hsplit.symm, hwords, htoken, hothers⟩⟩

/-- The white space in front of a text. -/
theorem exists_spaces (cs : List Char) :
    ∃ spaces rest, cs = spaces ++ rest ∧ (∀ c ∈ spaces, isSpace c = true) ∧
      ∀ c ∈ rest.head?, isSpace c = false := by
  refine ⟨cs.takeWhile isSpace, cs.dropWhile isSpace, List.takeWhile_append_dropWhile.symm,
    fun c hc => List.mem_takeWhile_imp hc, fun c hc => ?_⟩
  have := List.head?_dropWhile_not isSpace cs
  rw [Option.mem_def.mp hc] at this
  exact this

theorem spaces_of_scan?_nil (h : idle.scan? cs = some []) : ∀ c ∈ cs, isSpace c = true := by
  obtain ⟨spaces, rest, rfl, hspaces, hrest⟩ := exists_spaces cs
  rw [scan?_space hspaces] at h
  cases rest with
  | nil => simpa using hspaces
  | cons c rest =>
      obtain ⟨token, more, hout, -⟩ := exists_first (hrest c rfl) h
      cases hout

end Spaces

end Mode

/-- A number with white space around it. -/
def Number.Fills (n : Number) (cs : List Char) : Prop :=
  ∃ before word after, cs = before ++ (word ++ after) ∧ (∀ c ∈ before, isSpace c = true) ∧
    (∀ c ∈ word, isWordChar c = true) ∧ (∀ c ∈ after, isSpace c = true) ∧
    Number.ofWord? word = some n

theorem Token.ofWord?_number_iff {n : Number} :
    Token.ofWord? w = some (.number n) ↔ Number.ofWord? w = some n := by
  unfold Token.ofWord?
  split
  case h_4 => simp
  all_goals
    constructor <;> intro h <;> cases h

/-- A text whose only lexeme is a number. -/
theorem Number.fills_of_scan? {n : Number} (h : Token.scan? cs = some [.number n]) :
    n.Fills cs := by
  rw [scan?_eq] at h
  obtain ⟨spaces, rest, rfl, hspaces, hrest⟩ := Mode.exists_spaces cs
  rw [Mode.scan?_space hspaces] at h
  cases rest with
  | nil => cases h
  | cons c rest =>
      obtain ⟨token, more, hout, hnumber | ⟨w, after, hw, hwords, htoken, hmore⟩⟩ :=
        Mode.exists_first (hrest c rfl) h
      · cases hout
        exact absurd rfl (hnumber n)
      · cases hout
        rw [hw]
        exact ⟨spaces, w, after, rfl, hspaces, hwords, Mode.spaces_of_scan?_nil hmore,
          Token.ofWord?_number_iff.mp htoken⟩

end Hyperparams.Json
