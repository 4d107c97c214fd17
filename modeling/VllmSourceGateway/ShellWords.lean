import VllmSourceGateway.PyText

set_option autoImplicit false

/-! How a POSIX shell reads a line: quotes and backslashes are removed, blanks end
words. A line in which the shell would do more than that, such as an expansion or a
second command, is not read. -/
namespace VllmSourceGateway.ShellWords
open PyText

inductive Quoting where
  | unquoted
  | escaped
  | single
  | double
  | doubleEscaped
  deriving DecidableEq

structure Reader where
  quoting : Quoting
  word : Option Text
  words : List Text

def Reader.add (s : Reader) (c : Char) : Reader := { s with word := some (s.word.getD [] ++ [c]) }

/-- A quote starts a word, even an empty one. -/
def Reader.quote (s : Reader) (quoting : Quoting) : Reader :=
  ⟨quoting, some (s.word.getD []), s.words⟩

def Reader.endWord (s : Reader) : Reader := ⟨s.quoting, none, s.words ++ s.word.toList⟩

def backquote : Char := Char.ofNat 0x60

/-- Operators, expansions and patterns, and what is special at the start of a word. -/
def isSpecial (word : Option Text) (c : Char) : Bool :=
  ['|', '&', ';', '<', '>', '(', ')', '\n', '$', backquote, '*', '?', '['].contains c ||
    word.isNone && ['#', '~'].contains c

def step (s : Reader) (c : Char) : Option Reader :=
  match s.quoting with
  | .unquoted =>
    if c = ' ' ∨ c = '\t' then some s.endWord
    else if c = '\'' then some (s.quote .single)
    else if c = '"' then some (s.quote .double)
    else if c = '\\' then some { s with quoting := .escaped }
    else if isSpecial s.word c then none
    else some (s.add c)
  | .escaped =>
    -- a backslash before a newline joins two lines
    if c = '\n' then some { s with quoting := .unquoted }
    else some { s.add c with quoting := .unquoted }
  | .single =>
    if c = '\'' then some { s with quoting := .unquoted } else some (s.add c)
  | .double =>
    if c = '"' then some { s with quoting := .unquoted }
    else if c = '\\' then some { s with quoting := .doubleEscaped }
    else if c = '$' ∨ c = backquote then none
    else some (s.add c)
  | .doubleEscaped =>
    if c = '\n' then some { s with quoting := .double }
    else if c = '$' ∨ c = backquote ∨ c = '"' ∨ c = '\\' then
      some { s.add c with quoting := .double }
    else some { (s.add '\\').add c with quoting := .double }

def run (s : Reader) : Text → Option Reader
  | [] => some s
  | c :: t => (step s c).bind fun s => run s t

/-- The words of a line that is one simple command, all taken literally. -/
def simpleCommand (line : Text) : Option (List Text) :=
  match run ⟨.unquoted, none, []⟩ line with
  | some s => if s.quoting = .unquoted then some s.endWord.words else none
  | none => none

theorem run_append (s : Reader) (t u : Text) :
    run s (t ++ u) = (run s t).bind fun s => run s u := by
  induction t generalizing s with
  | nil => rfl
  | cons c t ih =>
    rw [List.cons_append, run, run]
    cases step s c with
    | none => rfl
    | some s' => exact ih s'

def Spells (source text : Text) : Prop :=
  ∀ words, run ⟨.unquoted, none, words⟩ source = some ⟨.unquoted, some text, words⟩

def isBare (c : Char) : Bool :=
  !([' ', '\t', '\'', '"', '\\'].contains c) && !isSpecial none c

theorem step_bare {s : Reader} {c : Char} (hquoting : s.quoting = .unquoted)
    (hc : isBare c = true) : step s c = some (s.add c) := by
  simp only [isBare, Bool.and_eq_true, Bool.not_eq_true', List.contains_eq_mem,
    decide_eq_false_iff_not, List.mem_cons, List.not_mem_nil, or_false, not_or] at hc
  obtain ⟨⟨hspace, htab, hsingle, hdouble, hbackslash⟩, hspecial⟩ := hc
  have hkept : isSpecial s.word c = false := by
    simp only [isSpecial, Option.isNone_none, Bool.true_and, Bool.or_eq_false_iff] at hspecial ⊢
    exact ⟨hspecial.1, by rw [hspecial.2, Bool.and_false]⟩
  simp only [step, hquoting, hspace, htab, hsingle, hdouble, hbackslash, hkept, or_self, if_false,
    Bool.false_eq_true]

theorem run_bare {text : Text} (h : ∀ c ∈ text, isBare c = true) (word : Text)
    (words : List Text) :
    run ⟨.unquoted, some word, words⟩ text = some ⟨.unquoted, some (word ++ text), words⟩ := by
  induction text generalizing word with
  | nil => rw [List.append_nil]; rfl
  | cons c text ih =>
    have hrest := ih (fun d hd => h d (List.mem_cons_of_mem c hd)) (word ++ [c])
    rw [List.append_assoc, List.singleton_append] at hrest
    rw [run, step_bare rfl (h c List.mem_cons_self), Option.bind_some]
    exact hrest

theorem spells_bare {text : Text} (hne : text ≠ []) (h : ∀ c ∈ text, isBare c = true) :
    Spells text text := by
  intro words
  obtain ⟨c, rest, rfl⟩ := List.exists_cons_of_ne_nil hne
  rw [run, step_bare rfl (h c List.mem_cons_self), Option.bind_some]
  exact run_bare (fun d hd => h d (List.mem_cons_of_mem c hd)) [c] words

theorem run_single {text : Text} (h : '\'' ∉ text) (word : Text) (words : List Text) :
    run ⟨.single, some word, words⟩ text = some ⟨.single, some (word ++ text), words⟩ := by
  induction text generalizing word with
  | nil => rw [List.append_nil]; rfl
  | cons c text ih =>
    obtain ⟨hc, htext⟩ := not_or.mp (mt List.mem_cons.mpr h)
    have hstep : step ⟨.single, some word, words⟩ c =
        some ⟨.single, some (word ++ [c]), words⟩ := if_neg (Ne.symm hc)
    rw [run, hstep, Option.bind_some, ih htext, List.append_assoc, List.singleton_append]

def quoted (text : Text) : Text := '\'' :: text ++ ['\'']

theorem spells_quoted {text : Text} (h : '\'' ∉ text) : Spells (quoted text) text := by
  intro words
  change run ⟨.single, some [], words⟩ (text ++ ['\'']) = _
  rw [run_append, run_single h]
  rfl

/-- The sources of words, each with a blank behind it. -/
def leading (sources : List Text) : Text := sources.flatMap fun source => source ++ [' ']

theorem run_leading {sources texts : List Text} (h : List.Forall₂ Spells sources texts)
    (words : List Text) (rest : Text) :
    run ⟨.unquoted, none, words⟩ (leading sources ++ rest) =
      run ⟨.unquoted, none, words ++ texts⟩ rest := by
  induction h generalizing words with
  | nil => rw [List.append_nil]; rfl
  | @cons source text sources texts hspells _ ih =>
    have hnext := ih (words ++ [text])
    rw [List.append_assoc, List.singleton_append] at hnext
    rw [leading, List.flatMap_cons, List.append_assoc, List.append_assoc, run_append, hspells words,
      ← hnext]
    rfl

theorem simpleCommand_spelled {sources texts : List Text} {source text : Text}
    (h : List.Forall₂ Spells sources texts) (hlast : Spells source text) :
    simpleCommand (leading sources ++ source) = some (texts ++ [text]) := by
  rw [simpleCommand, run_leading h, List.nil_append, hlast texts]
  rfl

/-! ### Commands -/

/-- A word of a command line that is written as it is, or in single quotes. -/
inductive Argument where
  | bare (text : String)
  | quoted (text : String)

def Argument.text : Argument → Text
  | .bare text => text.toList
  | .quoted text => text.toList

def Argument.source : Argument → Text
  | .bare text => text.toList
  | .quoted text => ShellWords.quoted text.toList

def Argument.literal : Argument → Bool
  | .bare text => text.toList ≠ [] && text.toList.all isBare
  | .quoted text => '\'' ∉ text.toList

theorem Argument.spells {argument : Argument} (h : argument.literal = true) :
    Spells argument.source argument.text := by
  cases argument with
  | bare text =>
    simp only [Argument.literal, Bool.and_eq_true, decide_eq_true_eq, List.all_eq_true] at h
    exact spells_bare h.1 h.2
  | quoted text => exact spells_quoted (of_decide_eq_true h)

theorem arguments_spell {arguments : List Argument}
    (h : arguments.all Argument.literal = true) :
    List.Forall₂ Spells (arguments.map Argument.source) (arguments.map Argument.text) := by
  rw [List.forall₂_map_left_iff, List.forall₂_map_right_iff, List.forall₂_same]
  exact fun argument hargument => Argument.spells (List.all_eq_true.mp h argument hargument)

/-- The backslash that has been read in double quotes may yet be kept. -/
def Quoting.pending : Quoting → ℕ
  | .doubleEscaped => 1
  | _ => 0

def Reader.kept (s : Reader) : ℕ := (s.words.map List.length).sum + (s.word.getD []).length

def Reader.size (s : Reader) : ℕ := s.kept + s.quoting.pending

theorem Reader.add_kept (s : Reader) (c : Char) : (s.add c).kept = s.kept + 1 := by
  simp only [Reader.kept, Reader.add, Option.getD_some, List.length_append, List.length_singleton,
    Nat.add_assoc]

theorem Reader.add_quoting (s : Reader) (c : Char) : (s.add c).quoting = s.quoting := rfl

theorem Reader.requote_kept (s : Reader) (quoting : Quoting) :
    Reader.kept { s with quoting := quoting } = s.kept := rfl

theorem Reader.quote_kept (s : Reader) (quoting : Quoting) : (s.quote quoting).kept = s.kept := rfl

theorem Reader.endWord_kept (s : Reader) : s.endWord.kept = s.kept := by
  obtain ⟨quoting, word, words⟩ := s
  cases word <;> simp [Reader.kept, Reader.endWord]

/-- Outside quotes a character is kept, or lost and the reader perhaps inside. -/
theorem step_unquoted {s s' : Reader} {c : Char} (hquoting : s.quoting = .unquoted)
    (h : step s c = some s') :
    s'.size = s.size ∨ s'.size = s.size + 1 ∧ s'.quoting = .unquoted ∧ c ≠ '\'' := by
  simp only [step, hquoting] at h
  split_ifs at h with hblank hsingle hdouble hbackslash hspecial
  · cases h
    refine .inl ?_
    rw [Reader.size, Reader.endWord_kept]
    rfl
  · cases h
    exact .inl (by simp only [Reader.size, Reader.quote_kept, hquoting]; rfl)
  · cases h
    exact .inl (by simp only [Reader.size, Reader.quote_kept, hquoting]; rfl)
  · cases h
    exact .inl (by simp only [Reader.size, hquoting]; rfl)
  · cases h
    refine .inr ⟨?_, hquoting, hsingle⟩
    rw [Reader.size, Reader.add_kept, Nat.add_right_comm]
    rfl

theorem step_size {s s' : Reader} {c : Char} (h : step s c = some s') : s'.size ≤ s.size + 1 := by
  cases hquoting : s.quoting with
  | unquoted =>
    rcases step_unquoted hquoting h with hsize | ⟨hsize, _⟩
    · omega
    · omega
  | escaped | single | double | doubleEscaped =>
    simp only [step, hquoting] at h
    split_ifs at h
    all_goals
      cases h
      simp only [Reader.size, Reader.requote_kept, Reader.add_kept, Reader.add_quoting,
        hquoting, Quoting.pending]
      omega

theorem run_size {s s' : Reader} {t : Text} (h : run s t = some s') :
    s'.size ≤ s.size + t.length := by
  induction t generalizing s with
  | nil =>
    cases h
    exact le_refl _
  | cons c t ih =>
    obtain ⟨s₁, hstep, hrun⟩ := Option.bind_eq_some_iff.mp h
    have hone := step_size hstep
    have hrest := ih hrun
    rw [List.length_cons]
    omega

/-- From outside quotes, the quote that ends a text is not kept, unless something
before it is not. -/
theorem run_ended {s s' : Reader} {t : Text} (hquoting : s.quoting = .unquoted)
    (h : run s (t ++ ['\'']) = some s') : s'.size ≤ s.size + t.length := by
  induction t generalizing s with
  | nil =>
    obtain ⟨s₁, hstep, hrun⟩ := Option.bind_eq_some_iff.mp h
    cases hrun
    rcases step_unquoted hquoting hstep with hsize | ⟨_, _, hne⟩
    · exact hsize.le
    · exact absurd rfl hne
  | cons c t ih =>
    obtain ⟨s₁, hstep, hrun⟩ := Option.bind_eq_some_iff.mp h
    rw [List.length_cons]
    rcases step_unquoted hquoting hstep with hsize | ⟨hsize, hnext, _⟩
    · have hrest := run_size hrun
      have hlength : (t ++ ['\'']).length = t.length + 1 := List.length_append
      change s'.size ≤ s₁.size + (t ++ ['\'']).length at hrest
      omega
    · have hrest := ih hnext hrun
      omega

theorem step_words {s s' : Reader} {c : Char} (h : step s c = some s') : s.words <+: s'.words := by
  cases hquoting : s.quoting with
  | unquoted =>
    simp only [step, hquoting] at h
    split_ifs at h
    · cases h
      exact List.prefix_append _ _
    all_goals
      cases h
      exact List.prefix_rfl
  | escaped | single | double | doubleEscaped =>
    simp only [step, hquoting] at h
    split_ifs at h
    all_goals
      cases h
      exact List.prefix_rfl

theorem run_words {s s' : Reader} {t : Text} (h : run s t = some s') : s.words <+: s'.words := by
  induction t generalizing s with
  | nil =>
    cases h
    exact List.prefix_rfl
  | cons c t ih =>
    obtain ⟨s₁, hstep, hrun⟩ := Option.bind_eq_some_iff.mp h
    exact (step_words hstep).trans (ih hrun)

theorem run_quoted_broken {text : Text} (hquote : '\'' ∈ text) {texts : List Text} {s : Reader}
    (h : run ⟨.unquoted, none, texts⟩ (quoted text) = some s) :
    s.size < (texts.map List.length).sum + text.length := by
  obtain ⟨before, after, rfl, hbefore⟩ := List.eq_append_cons_of_mem hquote
  -- the first quote of the text ends the quotes
  have hreopened : run ⟨.unquoted, some before, texts⟩ (after ++ ['\'']) = some s := by
    have hsplit : quoted (before ++ '\'' :: after) = quoted before ++ (after ++ ['\'']) := by
      simp [quoted]
    rw [hsplit, run_append, spells_quoted hbefore texts, Option.bind_some] at h
    exact h
  have hsize := run_ended rfl hreopened
  have hstart : Reader.size ⟨.unquoted, some before, texts⟩ =
      (texts.map List.length).sum + before.length := rfl
  rw [List.length_append, List.length_cons]
  omega

/-- A text with a quote in it, put in quotes, is read as less than the text. -/
theorem simpleCommand_broken {sources texts words : List Text} {text : Text}
    (h : List.Forall₂ Spells sources texts) (hquote : '\'' ∈ text)
    (hread : simpleCommand (leading sources ++ quoted text) = some words) :
    ∃ more, words = texts ++ more ∧ (more.map List.length).sum < text.length := by
  rw [simpleCommand, run_leading h, List.nil_append] at hread
  split at hread
  · rename_i s hrun
    split at hread
    · rename_i hquoting
      cases hread
      have hprefix : texts <+: s.words := run_words hrun
      obtain ⟨more, hmore⟩ := hprefix.trans (List.prefix_append s.words s.word.toList)
      refine ⟨more, hmore.symm, ?_⟩
      have hsize := run_quoted_broken hquote hrun
      have hkept : s.size = ((texts ++ more).map List.length).sum := by
        have hended := s.endWord_kept
        rw [Reader.size, hquoting, ← hended, hmore]
        rfl
      rw [List.map_append, List.sum_append] at hkept
      omega
    · cases hread
  · cases hread

end VllmSourceGateway.ShellWords
