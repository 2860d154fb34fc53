import Mathlib.Order.Bounds.Basic
import ComponentCompiler.Proofs.Stylesheet.Stops
import ComponentCompiler.Stylesheet.Parse

/-!
# A scan one character at a time

A scan leaps over escapes, strings and comments.  An automaton that reads the text one
character after the other, and looks only at the next one to tell a comment from a slash,
comes to the same answer: the scan stops at the first stop that the automaton reads outside
everything else.  If there is none, the scan runs to the end, or one place past it behind a
final backslash, unless the automaton ends within a comment.
-/

namespace ComponentCompiler.Stylesheet

open Text (apostrophe)

variable {stop : Char → Bool} {depth m n k : Nat} {c quote : Char} {s tail rest css : Text}
  {r : Scan}

/-! ## The automaton -/

/-- How much of a comment has been read. -/
inductive CommentPart
  /-- The slash at its beginning; the asterisk of the opening delimiter comes next. -/
  | slash
  | inside
  /-- An asterisk that may begin the closing delimiter. -/
  | asterisk
  deriving DecidableEq, Repr

/-- Where in a text the automaton is. -/
inductive Mode
  /-- Outside strings and comments, with so many open brackets. -/
  | plain (depth : Nat)
  /-- Behind a backslash. -/
  | escape (depth : Nat)
  | string (quote : Char) (depth : Nat)
  /-- Behind a backslash in a string. -/
  | stringEscape (quote : Char) (depth : Nat)
  | comment (part : CommentPart) (depth : Nat)
  deriving DecidableEq, Repr

namespace Mode

/-- The mode in which a character is read: a string ends before a line feed. -/
def reading (c : Char) : Mode → Mode
  | string quote depth => if c = '\n' then plain depth else string quote depth
  | mode => mode

/-- The mode behind a character; `next` is the one that follows it. -/
def after (mode : Mode) (c : Char) (next : Option Char) : Mode :=
  match mode.reading c with
  | plain depth =>
      if c = '\\' then escape depth
      else if c = '"' ∨ c = apostrophe then string c depth
      else if c = '/' ∧ next = some '*' then comment .slash depth
      else if c = '(' ∨ c = '[' then plain (depth + 1)
      else if c = ')' ∨ c = ']' then plain (depth - 1)
      else plain depth
  | escape depth => plain depth
  | string quote depth =>
      if c = '\\' then stringEscape quote depth
      else if c = quote then plain depth
      else string quote depth
  | stringEscape quote depth => string quote depth
  | comment .slash depth => comment .inside depth
  | comment .inside depth => comment (if c = '*' then .asterisk else .inside) depth
  | comment .asterisk depth =>
      if c = '/' then plain depth else comment (if c = '*' then .asterisk else .inside) depth

/-- Whether the mode is within a comment. -/
def isComment : Mode → Bool
  | comment _ _ => true
  | _ => false

/-- How many characters are missing to a mode that takes the next one along. -/
def missing : Mode → Nat
  | escape _ | stringEscape _ _ => 1
  | _ => 0

end Mode

/-- The mode behind so many characters of a text. -/
def modeAt (mode : Mode) : Text → Nat → Mode
  | _, 0 | [], _ => mode
  | c :: rest, n + 1 => modeAt (mode.after c rest.head?) rest n

/-- Whether the automaton reads a stop outside everything else behind so many characters. -/
def ReadsStop (stop : Char → Bool) (mode : Mode) (s : Text) (n : Nat) : Prop :=
  ∃ c, s[n]? = some c ∧ stop c = true ∧ (modeAt mode s n).reading c = .plain 0

/-- What the automaton, in a mode at the beginning of a text, says of a scan. -/
inductive Finds (stop : Char → Bool) (mode : Mode) (s : Text) : Scan → Prop
  | stop {n : Nat} (hfirst : IsLeast {k | ReadsStop stop mode s k} n) :
      Finds stop mode s (.length n)
  | passed {n : Nat} (hnone : ∀ k, ¬ ReadsStop stop mode s k)
      (hfinal : (modeAt mode s s.length).isComment = false)
      (hlength : n = s.length + (modeAt mode s s.length).missing) : Finds stop mode s (.length n)
  /-- A comment begins behind so many characters and goes on to the end. -/
  | unclosed {n : Nat} (hnone : ∀ k, ¬ ReadsStop stop mode s k)
      (hstart : startsComment (s.drop n) = true)
      (hbefore : (modeAt mode s n).isComment = false)
      (hafter : ∀ k, n < k → (modeAt mode s k).isComment = true) :
      Finds stop mode s (.unclosedComment n)

/-! ## One character -/

theorem not_readsStop_nil {mode : Mode} : ¬ ReadsStop stop mode [] n := by
  rintro ⟨c, hc, -⟩
  exact nomatch hc

theorem readsStop_zero {mode : Mode} :
    ReadsStop stop mode (c :: rest) 0 ↔ stop c = true ∧ mode.reading c = .plain 0 := by
  constructor
  · rintro ⟨d, hd, hstop, hmode⟩
    obtain rfl := Option.some.inj hd
    exact ⟨hstop, hmode⟩
  · rintro ⟨hstop, hmode⟩
    exact ⟨c, rfl, hstop, hmode⟩

/-- Behind its first character a text is read from the mode after it. -/
theorem readsStop_succ {mode : Mode} :
    ReadsStop stop mode (c :: rest) (n + 1) ↔
      ReadsStop stop (mode.after c rest.head?) rest n := Iff.rfl

theorem finds_nil {mode : Mode} (hfinal : mode.isComment = false) :
    Finds stop mode [] (.length mode.missing) :=
  .passed (fun _ => not_readsStop_nil) hfinal (Nat.zero_add _).symm

/-- Where only the end of the text is found, no comment begins. -/
theorem Finds.eq_of_nil (h : Finds stop (.plain depth) [] r) : r = .length 0 := by
  cases h with
  | stop hfirst => exact absurd hfirst.1 not_readsStop_nil
  | passed _ _ hlength => rw [hlength]; rfl
  | unclosed _ hstart _ _ => simp [startsComment] at hstart

/-- A character that the automaton does not stop at is passed over. -/
theorem Finds.cons {mode next : Mode} (hstop : stop c = true → mode.reading c ≠ .plain 0)
    (hnext : mode.after c rest.head? = next) (h : Finds stop next rest r) :
    Finds stop mode (c :: rest) (r.shift 1) := by
  subst hnext
  have hzero : ¬ ReadsStop stop mode (c :: rest) 0 := fun hread =>
    hstop (readsStop_zero.mp hread).1 (readsStop_zero.mp hread).2
  have hnone (hrest : ∀ k, ¬ ReadsStop stop (mode.after c rest.head?) rest k) :
      ∀ k, ¬ ReadsStop stop mode (c :: rest) k
    | 0 => hzero
    | k + 1 => hrest k
  cases h with
  | stop hfirst =>
      refine .stop ⟨hfirst.1, fun k hk => ?_⟩
      cases k with
      | zero => exact absurd hk hzero
      | succ k => exact Nat.succ_le_succ (hfirst.2 hk)
  | passed hrest hfinal hlength =>
      refine .passed (hnone hrest) hfinal ?_
      rw [hlength, Nat.add_right_comm]
      rfl
  | unclosed hrest hstart hbefore hafter =>
      refine .unclosed (hnone hrest) hstart hbefore fun k hk => ?_
      cases k with
      | zero => exact absurd hk (Nat.not_lt_zero _)
      | succ k => exact hafter k (Nat.lt_of_succ_lt_succ hk)

/-! ## Strings and comments -/

theorem Mode.reading_string (hfeed : c ≠ '\n') :
    (Mode.string quote depth).reading c = .string quote depth := if_neg hfeed

theorem Mode.after_string (hfeed : c ≠ '\n') (next : Option Char) :
    (Mode.string quote depth).after c next =
      if c = '\\' then .stringEscape quote depth
      else if c = quote then .plain depth
      else .string quote depth := by
  rw [Mode.after, Mode.reading_string hfeed]

theorem Scan.shift_shift (r : Scan) (m n : Nat) : (r.shift m).shift n = r.shift (m + n) := by
  cases r <;> exact congrArg _ (Nat.add_assoc _ _ _)

theorem Scan.shift_zero (r : Scan) : r.shift 0 = r := by
  cases r <;> rfl

/-- A character inside a string is passed over. -/
theorem Finds.cons_string {next : Mode} (hfeed : c ≠ '\n')
    (hnext : (Mode.string quote depth).after c rest.head? = next) (h : Finds stop next rest r) :
    Finds stop (.string quote depth) (c :: rest) (r.shift 1) := by
  refine h.cons (fun _ => ?_) hnext
  rw [Mode.reading_string hfeed]
  exact nofun

/-- A line feed is read outside the string that it ends. -/
theorem Finds.lineFeed (h : Finds stop (.plain depth) ('\n' :: rest) r) :
    Finds stop (.string quote depth) ('\n' :: rest) r := by
  have hmodes : ∀ k, (modeAt (.string quote depth) ('\n' :: rest) k).isComment =
      (modeAt (.plain depth) ('\n' :: rest) k).isComment
    | 0 => rfl
    | k + 1 => rfl
  have hreads : ReadsStop stop (.string quote depth) ('\n' :: rest) =
      ReadsStop stop (.plain depth) ('\n' :: rest) := by
    funext k
    cases k with
    | zero =>
        have hreading : (Mode.string quote depth).reading '\n' = .plain depth := by
          simp [Mode.reading]
        rw [readsStop_zero, readsStop_zero, hreading]
        rfl
    | succ k => rfl
  cases h with
  | stop hfirst => exact .stop (hreads ▸ hfirst)
  | passed hnone hfinal hlength => exact .passed (hreads ▸ hnone) hfinal hlength
  | unclosed hnone hstart hbefore hafter =>
      refine .unclosed (hreads ▸ hnone) hstart ((hmodes _).trans hbefore) fun k hk => ?_
      exact (hmodes k).trans (hafter k hk)

/-- A string is passed over with its closing mark, or up to the line feed that ends it. -/
theorem Finds.string (hquote : quote ≠ '\n')
    (h : Finds stop (.plain depth) (s.drop (stringTailLength quote s)) r) :
    Finds stop (.string quote depth) s (r.shift (stringTailLength quote s)) := by
  fun_induction stringTailLength quote s with
  | case1 =>
      obtain rfl := h.eq_of_nil
      exact finds_nil rfl
  | case2 =>
      obtain rfl := h.eq_of_nil
      have hend : Finds stop (.stringEscape quote depth) [] (.length 1) := finds_nil rfl
      exact hend.cons_string (by decide : '\\' ≠ '\n') (Mode.after_string (by decide) none)
  | case3 c rest ih =>
      have hescape : Finds stop (.stringEscape quote depth) (c :: rest) _ :=
        (ih h).cons (fun _ => nofun) rfl
      have hstring : Finds stop (.string quote depth) ('\\' :: c :: rest) _ :=
        hescape.cons_string (by decide) (Mode.after_string (by decide) _)
      rwa [Scan.shift_shift, Scan.shift_shift] at hstring
  | case4 rest hlast hmore =>
      have hescape : quote ≠ '\\' := ne_backslash_of_cases hlast hmore
      refine h.cons_string hquote ?_
      rw [Mode.after_string hquote, if_neg hescape, if_pos rfl]
  | case5 rest hlast hmore hother =>
      rw [Scan.shift_zero]
      exact h.lineFeed
  | case6 c rest hlast hmore hother hfeed ih =>
      have hescape : c ≠ '\\' := ne_backslash_of_cases hlast hmore
      have hstring := (ih h).cons_string (c := c) hfeed
        ((Mode.after_string hfeed _).trans (by rw [if_neg hescape, if_neg hother]))
      rwa [Scan.shift_shift] at hstring

/-- The mode within a comment behind a character. -/
theorem Mode.after_comment {part : CommentPart} (hpart : part ≠ .slash)
    (hslash : part = .asterisk → c ≠ '/') (next : Option Char) :
    (Mode.comment part depth).after c next =
      .comment (if c = '*' then .asterisk else .inside) depth := by
  cases part with
  | slash => exact absurd rfl hpart
  | inside => rfl
  | asterisk => exact if_neg (hslash rfl)

/-- Nothing is read within a comment as if it stood outside. -/
theorem Finds.cons_comment {part : CommentPart} {next : Mode}
    (hnext : (Mode.comment part depth).after c rest.head? = next) (h : Finds stop next rest r) :
    Finds stop (.comment part depth) (c :: rest) (r.shift 1) :=
  h.cons (fun _ => Mode.noConfusion) hnext

theorem behind_ne_slash (c : Char) :
    (if c = '*' then CommentPart.asterisk else .inside) ≠ .slash := by
  split <;> decide

/-- Behind a character of a comment that does not begin the closing delimiter, the next one does
not end it. -/
theorem head?_ne_slash_of_asterisk (h : ¬ ['*', '/'].isPrefixOf (c :: rest) = true) :
    (if c = '*' then CommentPart.asterisk else .inside) = .asterisk → rest.head? ≠ some '/' := by
  intro hpart hhead
  obtain ⟨tail, rfl⟩ := List.head?_eq_some_iff.mp hhead
  by_cases hc : c = '*'
  · simp [hc] at h
  · simp [hc] at hpart

/-- The rest of a comment is passed over with its closing delimiter. -/
theorem Finds.comment {part : CommentPart} (hpart : part ≠ .slash)
    (hslash : part = .asterisk → s.head? ≠ some '/')
    (hend : Text.endOfFirst? ['*', '/'] s = some n) (h : Finds stop (.plain depth) (s.drop n) r) :
    Finds stop (.comment part depth) s (r.shift n) := by
  induction s generalizing part n with
  | nil => exact nomatch hend
  | cons c rest ih =>
      have hc : part = .asterisk → c ≠ '/' := fun hpart hc => hslash hpart (congrArg some hc)
      rw [Text.endOfFirst?] at hend
      split at hend
      · rename_i hfound
        obtain ⟨tail, htail⟩ := List.isPrefixOf_iff_prefix.mp hfound
        obtain ⟨rfl, rfl⟩ := List.cons.inj htail
        obtain rfl : 2 = n := Option.some.inj hend
        have hslash : Finds stop (.comment .asterisk depth) ('/' :: tail) _ :=
          h.cons_comment (by simp [Mode.after, Mode.reading])
        have hcomment : Finds stop (.comment part depth) ('*' :: '/' :: tail) _ :=
          hslash.cons_comment (Mode.after_comment hpart hc _)
        rwa [Scan.shift_shift] at hcomment
      · rename_i hother
        obtain ⟨m, hm, rfl⟩ := Option.map_eq_some_iff.mp hend
        have hrest := ih (behind_ne_slash c) (head?_ne_slash_of_asterisk hother) hm h
        have hcomment : Finds stop (.comment part depth) (c :: rest) _ :=
          hrest.cons_comment (Mode.after_comment hpart hc _)
        rwa [Scan.shift_shift] at hcomment

/-- Without a closing delimiter all that follows belongs to the comment. -/
theorem isComment_modeAt {part : CommentPart} (hpart : part ≠ .slash)
    (hslash : part = .asterisk → s.head? ≠ some '/')
    (hend : Text.endOfFirst? ['*', '/'] s = none) (k : Nat) :
    (modeAt (.comment part depth) s k).isComment = true := by
  induction s generalizing part k with
  | nil => cases k <;> rfl
  | cons c rest ih =>
      have hc : part = .asterisk → c ≠ '/' := fun hpart hc => hslash hpart (congrArg some hc)
      rw [Text.endOfFirst?] at hend
      split at hend
      · cases hend
      · rename_i hother
        cases k with
        | zero => rfl
        | succ k =>
            rw [modeAt, Mode.after_comment hpart hc]
            exact ih (behind_ne_slash c) (head?_ne_slash_of_asterisk hother)
              (Option.map_eq_none_iff.mp hend) k

theorem not_readsStop_of_isComment {mode : Mode}
    (h : ∀ k, (modeAt mode s k).isComment = true) : ¬ ReadsStop stop mode s n := by
  rintro ⟨c, -, -, hmode⟩
  have hcomment := h n
  cases hat : modeAt mode s n <;> rw [hat] at hmode hcomment <;> cases hcomment
  exact nomatch hmode

/-! ## The whole scan -/

/-- The characters that have a meaning of their own for a scan. -/
def delimiters : List Char := ['(', ')', '[', ']', '"', apostrophe, '\\', '/']

theorem Mode.after_plain (depth : Nat) (c : Char) (next : Option Char) :
    (Mode.plain depth).after c next =
      if c = '\\' then .escape depth
      else if c = '"' ∨ c = apostrophe then .string c depth
      else if c = '/' ∧ next = some '*' then .comment .slash depth
      else if c = '(' ∨ c = '[' then .plain (depth + 1)
      else if c = ')' ∨ c = ']' then .plain (depth - 1)
      else .plain depth := rfl

/-- A character with a meaning of its own is no stop and is passed over. -/
theorem Finds.cons_delimiter {next : Mode} (hstop : ∀ c ∈ delimiters, stop c = false)
    (hc : c ∈ delimiters) (hnext : (Mode.plain depth).after c rest.head? = next)
    (h : Finds stop next rest r) : Finds stop (.plain depth) (c :: rest) (r.shift 1) :=
  h.cons (fun hyes => absurd hyes (Bool.eq_false_iff.mp (hstop c hc))) hnext

/-- Behind a backslash the next character is passed over, if there is one. -/
theorem Finds.escape (h : Finds stop (.plain depth) (s.drop 1) r) :
    Finds stop (.escape depth) s (r.shift 1) := by
  cases s with
  | nil =>
      obtain rfl := h.eq_of_nil
      exact finds_nil rfl
  | cons c rest => exact h.cons (fun _ => nofun) rfl

theorem Mode.after_slash (depth : Nat) :
    (Mode.plain depth).after '/' (some '*') = .comment .slash depth := by
  simp [Mode.after_plain, apostrophe]

/-- A comment that is not closed is found where it begins. -/
theorem finds_unclosed (hstop : ∀ c ∈ delimiters, stop c = false)
    (hend : Text.endOfFirst? ['*', '/'] tail = none) :
    Finds stop (.plain depth) ('/' :: '*' :: tail) (.unclosedComment 0) := by
  have hinside : ∀ k, (modeAt (.comment .inside depth) tail k).isComment = true :=
    isComment_modeAt nofun nofun hend
  have hmodes : ∀ k, (modeAt (.comment .slash depth) ('*' :: tail) k).isComment = true
    | 0 => rfl
    | k + 1 => hinside k
  refine .unclosed (fun k hread => ?_) rfl rfl fun k hk => ?_
  · cases k with
    | zero =>
        have hslash := (readsStop_zero.mp hread).1
        exact Bool.false_ne_true ((hstop '/' (by decide)).symm.trans hslash)
    | succ k =>
        rw [readsStop_succ, List.head?_cons, Mode.after_slash] at hread
        exact not_readsStop_of_isComment hmodes hread
  · cases k with
    | zero => exact absurd hk (Nat.lt_irrefl 0)
    | succ k =>
        rw [modeAt, List.head?_cons, Mode.after_slash]
        exact hmodes k

/-- A scan gives the answer of the automaton. -/
theorem finds_scan (hstop : ∀ c ∈ delimiters, stop c = false) (depth : Nat) (s : Text) :
    Finds stop (.plain depth) s (scan stop depth s) := by
  fun_induction scan stop depth s with
  | case1 => exact finds_nil rfl
  | case2 depth rest ih =>
      have hescape : Finds stop (.plain depth) ('\\' :: rest) _ :=
        ih.escape.cons_delimiter hstop (by decide) (by simp [Mode.after, Mode.reading])
      rwa [Scan.shift_shift] at hescape
  | case3 depth c rest hescape hquote n ih =>
      have hstring : Finds stop (.string c depth) rest _ :=
        Finds.string (by rcases hquote with rfl | rfl <;> decide) ih
      have hpassed := hstring.cons_delimiter hstop (c := c)
        (by rcases hquote with rfl | rfl <;> decide)
        (by rw [Mode.after_plain, if_neg hescape, if_pos hquote])
      rwa [Scan.shift_shift] at hpassed
  | case4 depth c rest _ _ hcomment hnone =>
      obtain ⟨tail, htail⟩ := List.isPrefixOf_iff_prefix.mp hcomment
      obtain ⟨rfl, rfl⟩ := List.cons.inj htail
      exact finds_unclosed hstop (Option.map_eq_none_iff.mp hnone)
  | case5 depth c rest _ _ hcomment n hlength ih =>
      obtain ⟨tail, htail⟩ := List.isPrefixOf_iff_prefix.mp hcomment
      obtain ⟨rfl, rfl⟩ := List.cons.inj htail
      obtain ⟨m, hend, rfl⟩ := Option.map_eq_some_iff.mp hlength
      have hinside : Finds stop (.comment .inside depth) tail _ :=
        Finds.comment nofun nofun hend ih
      have hslash : Finds stop (.comment .slash depth) ('*' :: tail) _ :=
        hinside.cons_comment rfl
      have hpassed := hslash.cons_delimiter hstop (c := '/') (by decide) (Mode.after_slash depth)
      rwa [Scan.shift_shift, Scan.shift_shift] at hpassed
  | case6 depth c rest hescape hquote hcomment hopen ih =>
      rw [startsComment_cons] at hcomment
      refine ih.cons_delimiter hstop (by rcases hopen with rfl | rfl <;> decide) ?_
      rw [Mode.after_plain, if_neg hescape, if_neg hquote, if_neg (by simpa using hcomment),
        if_pos hopen]
  | case7 depth c rest hescape hquote hcomment hopen hclose ih =>
      rw [startsComment_cons] at hcomment
      refine ih.cons_delimiter hstop (by rcases hclose with rfl | rfl <;> decide) ?_
      rw [Mode.after_plain, if_neg hescape, if_neg hquote, if_neg (by simpa using hcomment),
        if_neg hopen, if_pos hclose]
  | case8 depth c rest _ _ _ _ _ hhere =>
      obtain ⟨rfl, hc⟩ := hhere
      exact .stop ⟨readsStop_zero.mpr ⟨hc, rfl⟩, fun _ _ => Nat.zero_le _⟩
  | case9 depth c rest hescape hquote hcomment hopen hclose hpassed ih =>
      rw [startsComment_cons] at hcomment
      refine ih.cons (fun hc hmode => hpassed ⟨Mode.plain.inj hmode, hc⟩) ?_
      rw [Mode.after_plain, if_neg hescape, if_neg hquote, if_neg (by simpa using hcomment),
        if_neg hopen, if_neg hclose]

/-- The mode that the automaton, set on a text at a position, has before an index. -/
def modeFrom (css : Text) (start index : Nat) : Mode :=
  modeAt (.plain 0) (css.drop start) (index - start)

/-- Whether the automaton, set on a text at a position, reads a stop outside everything else
at an index. -/
def ReadsStopFrom (stop : Char → Bool) (css : Text) (start index : Nat) : Prop :=
  start ≤ index ∧
    ∃ c, css[index]? = some c ∧ stop c = true ∧ (modeFrom css start index).reading c = .plain 0

instance (stop : Char → Bool) (css : Text) (start index : Nat) :
    Decidable (ReadsStopFrom stop css start index) :=
  decidable_of_iff (start ≤ index ∧ (css[index]?.any fun c =>
      stop c && (modeFrom css start index).reading c == .plain 0) = true) (by
    simp [ReadsStopFrom, Option.any_eq_true])

theorem readsStopFrom_add (css : Text) (start n : Nat) :
    ReadsStopFrom stop css start (start + n) ↔ ReadsStop stop (.plain 0) (css.drop start) n := by
  rw [ReadsStopFrom, modeFrom, Nat.add_sub_cancel_left, ReadsStop, List.getElem?_drop]
  exact and_iff_right (Nat.le_add_right start n)

theorem readsStopFrom_iff {start index : Nat} :
    ReadsStopFrom stop css start index ↔
      ∃ n, index = start + n ∧ ReadsStop stop (.plain 0) (css.drop start) n := by
  constructor
  · intro h
    obtain ⟨n, rfl⟩ := Nat.exists_eq_add_of_le h.1
    exact ⟨n, rfl, (readsStopFrom_add css start n).mp h⟩
  · rintro ⟨n, rfl, h⟩
    exact (readsStopFrom_add css start n).mpr h

/-- A scan from a position on finds the first stop that the automaton reads outside
brackets, strings, escapes and comments.  If it reads none, the scan fails at the comment in
which the automaton ends, and otherwise passes over all that is left, with one place more
for a final backslash. -/
theorem scan_follows_modes (css : Text) (start : Nat) (stop : Char → Bool)
    (hstop : ∀ c ∈ delimiters, stop c = false) :
    (∀ index, IsLeast {i | ReadsStopFrom stop css start i} index →
      ∃ n, scan stop 0 (css.drop start) = .length n ∧ start + n = index) ∧
    ((∀ i, ¬ ReadsStopFrom stop css start i) →
      ((modeFrom css start css.length).isComment = true →
        ∃ n, scan stop 0 (css.drop start) = .unclosedComment n ∧
          Fault.message ⟨.unclosedComment, start + n⟩ = "Unclosed comment" ∧
          startsComment (css.drop (start + n)) = true ∧
          (modeFrom css start (start + n)).isComment = false ∧
          ∀ i, start + n < i → (modeFrom css start i).isComment = true) ∧
      ((modeFrom css start css.length).isComment = false →
        ∃ n, scan stop 0 (css.drop start) = .length n ∧ css.length ≤ start + n ∧
          n = css.length - start + (modeFrom css start css.length).missing)) := by
  have hfinds := finds_scan hstop 0 (css.drop start)
  generalize scan stop 0 (css.drop start) = r at hfinds ⊢
  have hlength : (css.drop start).length = css.length - start := List.length_drop
  refine ⟨fun index hindex => ?_, fun hnone => ?_⟩
  · obtain ⟨hreads, hfirst⟩ := hindex
    obtain ⟨n, rfl, hn⟩ := readsStopFrom_iff.mp hreads
    cases hfinds with
    | @stop m hm =>
        refine ⟨m, rfl, Nat.le_antisymm (Nat.add_le_add_left (hm.2 hn) start) ?_⟩
        exact hfirst ((readsStopFrom_add css start m).mpr hm.1)
    | passed hpassed => exact absurd hn (hpassed n)
    | unclosed hpassed => exact absurd hn (hpassed n)
  · cases hfinds with
    | @stop m hm => exact absurd ((readsStopFrom_add css start m).mpr hm.1) (hnone _)
    | @passed m _ hfinal hm =>
        rw [hlength] at hfinal hm
        refine ⟨fun hcomment => absurd (hcomment.symm.trans hfinal) nofun, fun _ => ?_⟩
        exact ⟨m, rfl, by omega, hm⟩
    | @unclosed m _ hstart hbefore hafter =>
        have hm : m < css.length - start := by
          by_contra hend
          rw [List.drop_of_length_le (by omega)] at hstart
          exact absurd hstart (by decide)
        refine ⟨fun _ => ⟨m, rfl, rfl, ?_, ?_, fun i hi => ?_⟩, fun hplain => ?_⟩
        · rwa [List.drop_drop] at hstart
        · rwa [modeFrom, Nat.add_sub_cancel_left]
        · exact hafter (i - start) (by omega)
        · exact absurd ((hafter _ hm).symm.trans hplain) nofun

theorem ReadsStopFrom.lt_length {start index : Nat} (h : ReadsStopFrom stop css start index) :
    index < css.length := by
  obtain ⟨-, c, hc, -⟩ := h
  exact (List.getElem?_eq_some_iff.mp hc).1

/-- A stop behind a string with an escaped mark and a comment with another opening delimiter; a
comment whose only asterisk does not close it; a string that ends in a backslash. -/
theorem scan_follows_modes_mixed :
    let closed : Text := "\x7da(\x27\x7d;\\\x27\x27)[/*/;*/];\x7d".toList
    let unclosed : Text := "(a)\"\n/*/ ;".toList
    let escaped : Text := "[;]'\\".toList
    (∀ c ∈ delimiters, endsHead c = false) ∧
      (IsLeast {i | ReadsStopFrom endsHead closed 1 i} 18 ∧
        ∃ n, scan endsHead 0 (closed.drop 1) = .length n ∧ 1 + n = 18) ∧
      ((∀ i, ¬ ReadsStopFrom endsHead unclosed 0 i) ∧
        (modeFrom unclosed 0 unclosed.length).isComment = true ∧
        ∃ n, scan endsHead 0 unclosed = .unclosedComment n ∧
          startsComment (unclosed.drop (0 + n)) = true) ∧
      (∀ i, ¬ ReadsStopFrom endsHead escaped 0 i) ∧
        (modeFrom escaped 0 escaped.length).isComment = false ∧
        ∃ n, scan endsHead 0 escaped = .length n ∧ escaped.length ≤ 0 + n := by
  intro closed unclosed escaped
  have hstop : ∀ c ∈ delimiters, endsHead c = false := by simp [delimiters, endsHead, apostrophe]
  have hbefore : ∀ i < 18, ¬ ReadsStopFrom endsHead closed 1 i := by decide
  have hleast : IsLeast {i | ReadsStopFrom endsHead closed 1 i} 18 :=
    ⟨by decide, fun i hi => Nat.le_of_not_lt fun hlt => hbefore i hlt hi⟩
  have hunclosed : ∀ i < unclosed.length, ¬ ReadsStopFrom endsHead unclosed 0 i := by decide
  have hnone : ∀ i, ¬ ReadsStopFrom endsHead unclosed 0 i := fun i hi =>
    hunclosed i hi.lt_length hi
  have hescaped : ∀ i < escaped.length, ¬ ReadsStopFrom endsHead escaped 0 i := by decide
  have hnone' : ∀ i, ¬ ReadsStopFrom endsHead escaped 0 i := fun i hi =>
    hescaped i hi.lt_length hi
  obtain ⟨n, hscan, -, hstart, -⟩ :=
    ((scan_follows_modes unclosed 0 endsHead hstop).2 hnone).1 (by decide)
  obtain ⟨m, hscan', hm, -⟩ :=
    ((scan_follows_modes escaped 0 endsHead hstop).2 hnone').2 (by decide)
  exact ⟨hstop, ⟨hleast, (scan_follows_modes closed 1 endsHead hstop).1 18 hleast⟩,
    ⟨hnone, by decide, n, hscan, hstart⟩, hnone', by decide, m, hscan', hm⟩

end ComponentCompiler.Stylesheet
