import ComponentCompiler.Component.Document
import ComponentCompiler.Proofs.Result

/-!
# Raw text

What stands in a script or a style is text without any markup up to its end tag.  A turn of
the loop that reads a document either stays in such text and takes it over as it is, or ends
it.  So the tree has it in one piece, as it stands in the document; only text of nothing but
blanks may be shrunk.
-/

namespace ComponentCompiler.Markup

variable {s : Text} {name : Text} {tokens : List Token} {n start : Nat} {mode : RawMode}
  {final : Bool}

/-! ## Turns -/

/-- The raw text mode after a token. -/
def Token.modeAfter : Token → RawMode
  | .startTag name _ => if isRawText (String.ofList name) then some name else none
  | _ => none

/-- What a turn outside raw text reads: at most one token, which decides on the mode. -/
inductive PlainTurn : List Token → RawMode → Prop
  | none : PlainTurn [] none
  | one {token : Token} {mode : RawMode} (hmode : token.modeAfter = mode) :
      PlainTurn [token] mode

/-- What a turn in raw text reads: a text that is taken as it is, or the end tag. -/
inductive RawTurn (name s : Text) : List Token → Nat → RawMode → Prop
  | text (n : Nat) : RawTurn name s [.text (s.take n)] n (some name)
  | close (n : Nat) : RawTurn name s [.endTag name] n none

/-! ### Outside raw text -/

theorem plainTurn_bogusComment (h : bogusComment none s = .complete tokens n mode) :
    PlainTurn tokens mode := by
  rw [bogusComment] at h
  split at h <;> cases h
  exact .one rfl

theorem plainTurn_startTag (h : startTag s = .complete tokens n mode) :
    PlainTurn tokens mode := by
  simp only [startTag] at h
  repeat' split at h
  all_goals cases h
  case h_2.isTrue.refl hraw => exact .one (if_pos hraw)
  case h_2.isFalse.refl hraw => exact .one (if_neg hraw)
  all_goals exact .one rfl

theorem plainTurn_endTag (h : endTag none s = .complete tokens n mode) :
    PlainTurn tokens mode := by
  simp only [endTag] at h
  repeat' split at h
  all_goals first
    | exact plainTurn_bogusComment h
    | cases h
  all_goals first
    | exact .one rfl
    | exact .none

theorem plainTurn_sectionToken (content : Text) : PlainTurn [sectionToken content] none := by
  rw [sectionToken]
  split <;> exact .one rfl

theorem plainTurn_declarationAt (h : declarationAt none s = .complete tokens n mode) :
    PlainTurn tokens mode := by
  simp only [declarationAt, commentAt, markedSection] at h
  repeat' split at h
  all_goals first
    | exact plainTurn_bogusComment h
    | cases h
  all_goals first
    | exact .one rfl
    | exact plainTurn_sectionToken _

theorem plainTurn_constructAt (h : constructAt none s = .complete tokens n mode) :
    PlainTurn tokens mode := by
  rw [constructAt] at h
  repeat' split at h
  · cases h
  · exact plainTurn_startTag h
  · exact plainTurn_endTag h
  · rw [instructionAt] at h
    split at h <;> cases h
    exact .one rfl
  · exact plainTurn_declarationAt h
  · cases h
    exact .one rfl

theorem plainTurn_referenceTurn (h : referenceTurn final none s = .advance tokens n mode) :
    PlainTurn tokens mode := by
  rw [referenceTurn] at h
  repeat' split at h
  all_goals cases h
  all_goals exact .one rfl

theorem plainTurn_constructTurn (h : constructTurn final none s = .advance tokens n mode) :
    PlainTurn tokens mode := by
  rw [constructTurn] at h
  split at h
  · exact plainTurn_referenceTurn h
  · split at h
    case h_1 hconstruct =>
      cases h
      exact plainTurn_constructAt hconstruct
    case h_2 =>
      split at h <;> cases h
      exact .one rfl
    case h_3 => cases h

theorem plainTurn_of_stop (h : constructTurn final none s = .stop tokens n) :
    PlainTurn tokens none := by
  rw [constructTurn, referenceTurn] at h
  repeat' split at h
  all_goals cases h
  all_goals first
    | exact .none
    | exact .one rfl

/-! ### Inside raw text -/

theorem exists_of_rawEndIndex? (h : rawEndIndex? name s = some start) :
    ∃ rest, s.drop start = '<' :: '/' :: rest := by
  induction s generalizing start with
  | nil => cases h
  | cons c rest ih =>
      rw [rawEndIndex?] at h
      split at h
      case isTrue hends =>
        cases h
        unfold beginsRawEnd at hends
        split at hends
        case h_1 heq => exact ⟨_, heq⟩
        case h_2 => cases hends
      case isFalse =>
        obtain ⟨index, hindex, rfl⟩ := Option.map_eq_some_iff.mp h
        exact ih hindex

theorem rawTurn_endTag (h : endTag (some name) s = .complete tokens n mode) :
    RawTurn name s tokens n mode := by
  rw [endTag] at h
  split at h
  · cases h
  · dsimp only [Option.isSome_some] at h
    split at h
    case h_1 written _ =>
      split at h
      case isTrue =>
        cases h
        exact .text _
      case isFalse hsame =>
        obtain rfl : name = Text.lower written := by simpa using hsame
        cases h
        exact .close _
    case h_2 =>
      cases h
      exact .text _

theorem constructTurn_of_slash {rest : Text} (hs : s = '<' :: '/' :: rest) :
    constructTurn final mode s =
      match endTag mode s with
      | .complete tokens n mode => .advance tokens n mode
      | .incomplete =>
          if final ∧ s.length ≠ 1 then
            .advance [.text (s.take (spoiltLength s))] (spoiltLength s) mode
          else .stop [] 0
      | .rejected reason => .rejected reason := by
  subst hs
  rfl

theorem rawTurn_constructTurn {rest : Text} (hs : s = '<' :: '/' :: rest)
    (h : constructTurn final (some name) s = .advance tokens n mode) :
    RawTurn name s tokens n mode := by
  rw [constructTurn_of_slash hs] at h
  split at h
  case h_1 hend =>
    cases h
    exact rawTurn_endTag hend
  case h_2 =>
    split at h <;> cases h
    exact .text _
  case h_3 => cases h

theorem eq_nil_of_stop {rest : Text} (hs : s = '<' :: '/' :: rest)
    (h : constructTurn final (some name) s = .stop tokens n) : tokens = [] ∧ n = 0 := by
  rw [constructTurn_of_slash hs] at h
  repeat' split at h
  all_goals cases h
  exact ⟨rfl, rfl⟩

/-! ## Building the tree -/

/-- The content of a script or a style outside all other elements is a part of the document,
if it is more than blanks. -/
def Node.IsVerbatim (document : Text) : Node → Prop
  | .element name _ children => isRawText name = true →
      children = [] ∨ ∃ content : String, children = [.text content] ∧
        (content.toList <:+: document ∨ content.toList.all Text.isBlank = true)
  | _ => True

namespace Builder

variable {document read : Text} {b : Builder} {node : Node} {element : String}
  {wrap : String → Node} {attributes : List Attribute}

/-- The nodes built so far are as they stand in the document. -/
structure Sound (document : Text) (b : Builder) : Prop where
  top : ∀ node ∈ b.top, node.IsVerbatim document
  closed : ∀ name ∈ b.closed, isRawText name = false

/-- No raw text element is open. -/
structure Outside (document : Text) (b : Builder) : Prop extends Sound document b where
  stack : ∀ e ∈ b.stack, isRawText e.name = false

/-- A raw text element is open, of whose content this text was read. -/
structure Inside (document : Text) (element : String) (read : Text) (b : Builder) : Prop
    extends Sound document b where
  raw : isRawText element = true
  exists_stack : ∃ attributes outer, b.stack = ⟨element, attributes, []⟩ :: outer ∧
    ∀ e ∈ outer, isRawText e.name = false
  pending : b.pending.reverse.flatten = read

theorem Outside.append (h : Outside document b) (hnode : node.IsVerbatim document) :
    Outside document (b.append node) := by
  rw [Builder.append]
  split
  case h_1 => exact { h with top := List.forall_mem_cons.mpr ⟨hnode, h.top⟩ }
  case h_2 inner outer hstack =>
    have hopen := List.forall_mem_cons.mp (hstack ▸ h.stack)
    exact { h with stack := List.forall_mem_cons.mpr hopen }

theorem Outside.flush (h : Outside document b)
    (hwrap : ∀ content, (wrap content).IsVerbatim document) :
    Outside document (b.flush wrap) := by
  rw [Builder.flush]
  split
  · exact h
  · have hempty : Outside document { b with pending := [] } := { h with }
    exact hempty.append (hwrap _)

theorem Outside.flush_text (h : Outside document b) : Outside document (b.flush .text) :=
  h.flush fun _ => trivial

theorem Outside.collect (h : Outside document b) (s : Text) : Outside document (b.collect s) :=
  { h with }

theorem Outside.insert (h : Outside document b) (wrap : String → Node)
    (hwrap : ∀ content, (wrap content).IsVerbatim document) (s : Text) :
    Outside document (b.insert wrap s) :=
  (h.flush_text.collect s).flush hwrap

theorem Outside.closeInnermost (h : Outside document b) : Outside document b.closeInnermost := by
  rw [Builder.closeInnermost]
  split
  case h_1 => exact h
  case h_2 inner outer hstack =>
    obtain ⟨hinner, houter⟩ := List.forall_mem_cons.mp (hstack ▸ h.stack)
    have hpopped : Outside document { b with stack := outer } := { h with stack := houter }
    exact hpopped.append fun hraw => absurd hraw (by simp [hinner])

theorem Outside.closeMany (h : Outside document b) (count : Nat) :
    Outside document (closeMany count b) := by
  induction count generalizing b with
  | zero => exact h
  | succ count ih => exact ih h.closeInnermost

theorem Outside.closeElement (h : Outside document b) (name : String) :
    Outside document (b.closeElement name) := by
  rw [Builder.closeElement]
  split
  · exact h.flush_text.closeMany _
  · exact h.flush_text

theorem Outside.endElement (h : Outside document b) (name : String) :
    Outside document (b.endElement name) := by
  rw [Builder.endElement]
  split
  · exact { h with closed := fun other hother => h.closed other (List.mem_of_mem_erase hother) }
  · exact h.closeElement name

theorem Outside.openElement (h : Outside document b) (hplain : isRawText element = false)
    (attributes : List Attribute) : Outside document (b.openElement element attributes) := by
  have hflushed := h.flush_text
  exact { hflushed with stack := List.forall_mem_cons.mpr ⟨hplain, hflushed.stack⟩ }

theorem pending_append (b : Builder) (node : Node) : (b.append node).pending = b.pending := by
  rw [append]
  split <;> rfl

theorem pending_flush (b : Builder) (wrap : String → Node) : (b.flush wrap).pending = [] := by
  rw [flush]
  split
  · assumption
  · exact pending_append _ _

/-- Opening a raw text element. -/
theorem Outside.openElement_raw (h : Outside document b) (hraw : isRawText element = true)
    (attributes : List Attribute) :
    Inside document element [] (b.openElement element attributes) := by
  have hflushed := h.flush_text
  refine { hflushed with
    raw := hraw, exists_stack := ⟨attributes, _, rfl, hflushed.stack⟩, pending := ?_ }
  change (b.flush .text).pending.reverse.flatten = []
  rw [pending_flush]
  rfl

theorem Inside.collect (h : Inside document element read b) (s : Text) :
    Inside document element (read ++ s) (b.collect s) := by
  refine { h with pending := ?_ }
  simp [Builder.collect, h.pending]

theorem contentOf_cases (b : Builder) (s : Text) :
    (b.contentOf s).toList = s ∨ (b.contentOf s).toList.all Text.isBlank = true := by
  rw [contentOf]
  split
  · split <;> exact Or.inr (by decide)
  · exact Or.inl String.toList_ofList

/-- Closing a raw text element makes a node of what was read of it. -/
theorem Inside.closeInnermost_flush (h : Inside document element read b)
    (hread : read <:+: document) : Outside document (b.flush .text).closeInnermost := by
  obtain ⟨attributes, outer, hstack, houter⟩ := h.exists_stack
  rw [Builder.flush]
  split
  case h_1 =>
    rw [Builder.closeInnermost, hstack]
    have hpopped : Outside document { b with stack := outer } := { h with stack := houter }
    exact hpopped.append fun _ => Or.inl rfl
  case h_2 =>
    rw [h.pending, Builder.append, hstack, Builder.closeInnermost]
    have hpopped : Outside document { b with pending := [], stack := outer } :=
      { h with stack := houter }
    refine hpopped.append fun _ => Or.inr ⟨_, rfl, ?_⟩
    refine (b.contentOf_cases read).imp_left fun hcontent => ?_
    rwa [hcontent]

theorem Inside.closeMany_flush (h : Inside document element read b)
    (hread : read <:+: document) (count : Nat) :
    Outside document (closeMany (count + 1) (b.flush .text)) :=
  (h.closeInnermost_flush hread).closeMany count

theorem Inside.exists_stack_flush (h : Inside document element read b) :
    ∃ attributes children outer,
      (b.flush .text).stack = ⟨element, attributes, children⟩ :: outer := by
  obtain ⟨attributes, outer, hstack, -⟩ := h.exists_stack
  rw [Builder.flush]
  split
  · exact ⟨attributes, [], outer, hstack⟩
  · rw [Builder.append, hstack]
    exact ⟨attributes, _, outer, rfl⟩

theorem Inside.endElement (h : Inside document element read b) (hread : read <:+: document) :
    Outside document (b.endElement element) := by
  have hopen : element ∉ b.closed := fun hmem => absurd h.raw (by simp [h.closed element hmem])
  obtain ⟨attributes, children, outer, hstack⟩ := h.exists_stack_flush
  rw [Builder.endElement, if_neg (by simpa using hopen), Builder.closeElement,
    hstack, List.findIdx?_cons, beq_self_eq_true, if_pos rfl]
  exact h.closeMany_flush hread 0

/-- A token that opens no raw text element. -/
theorem Outside.add (h : Outside document b) {token : Token} (htoken : token.modeAfter = none) :
    Outside document (b.add token) := by
  cases token with
  | startTag name written =>
      have hplain : isRawText (String.ofList name) = false := by
        simpa [Token.modeAfter] using htoken
      have hopened := h.openElement hplain
        (markEncoding (String.ofList name) (attributesOf (String.ofList name) written))
      rw [Builder.add]
      dsimp only
      split
      · have hclosed := hopened.closeElement (String.ofList name)
        exact { hclosed with closed := List.forall_mem_cons.mpr ⟨hplain, hopened.closed⟩ }
      · exact hopened
  | emptyTag name written =>
      -- A raw text element that is its own end tag holds nothing.
      rw [Builder.add]
      cases hraw : isRawText (String.ofList name) with
      | false => exact (h.openElement hraw _).endElement _
      | true => exact (h.openElement_raw hraw _).endElement List.nil_infix
  | endTag name => exact h.endElement _
  | text s => exact h.collect s
  | comment s => exact h.insert .comment (fun _ => trivial) s
  | doctype s => exact h.insert .doctype (fun _ => trivial) s
  | cdata s => exact h.insert .cdata (fun _ => trivial) s
  | declaration s => exact h.insert .declaration (fun _ => trivial) s
  | instruction s => exact h.insert .instruction (fun _ => trivial) s

theorem isVoid_of_isRawText (h : isRawText element = true) : isVoid element = false := by
  rw [isRawText, Bool.or_eq_true, beq_iff_eq, beq_iff_eq] at h
  rcases h with rfl | rfl <;> decide

/-- A token that opens a raw text element. -/
theorem Outside.add_raw (h : Outside document b) {token : Token} {name : Text}
    (htoken : token.modeAfter = some name) :
    Inside document (String.ofList name) [] (b.add token) := by
  cases token with
  | startTag other written =>
      obtain ⟨hraw, rfl⟩ : isRawText (String.ofList other) = true ∧ other = name := by
        simpa [Token.modeAfter] using htoken
      rw [Builder.add]
      dsimp only
      rw [isVoid_of_isRawText hraw]
      exact h.openElement_raw hraw _
  | _ => cases htoken

/-- Where reading stands: in raw text with what was read of it right before the rest of the
document, or outside. -/
def At (document rest : Text) : RawMode → Builder → Prop
  | none, b => rest <:+ document ∧ Outside document b
  | some name, b => ∃ read, read ++ rest <:+ document ∧
      Inside document (String.ofList name) read b

variable {rest : Text}

theorem At.textTokens (h : At document (s ++ rest) mode b) :
    At document rest mode ((textTokens s).foldl Builder.add b) := by
  rw [Markup.textTokens]
  split
  case isTrue hempty =>
    obtain rfl := List.isEmpty_iff.mp hempty
    exact h
  case isFalse =>
    cases mode with
    | none => exact ⟨(List.suffix_append s rest).trans h.1, h.2.collect s⟩
    | some name =>
        obtain ⟨read, hsuffix, hinside⟩ := h
        refine ⟨read ++ s, ?_, hinside.collect s⟩
        rwa [List.append_assoc]

theorem At.plainTurn (h : At document (s ++ rest) none b) (hturn : PlainTurn tokens mode) :
    At document rest mode (tokens.foldl Builder.add b) := by
  have hrest : rest <:+ document := (List.suffix_append s rest).trans h.1
  cases hturn with
  | none => exact ⟨hrest, h.2⟩
  | one hmode =>
      cases mode with
      | none => exact ⟨hrest, h.2.add hmode⟩
      | some name => exact ⟨[], hrest, h.2.add_raw hmode⟩

theorem At.rawTurn (h : At document s (some name) b) (hturn : RawTurn name s tokens n mode) :
    At document (s.drop n) mode (tokens.foldl Builder.add b) := by
  obtain ⟨read, hsuffix, hinside⟩ := h
  cases hturn with
  | text n =>
      refine ⟨read ++ s.take n, ?_, hinside.collect _⟩
      rwa [List.append_assoc, List.take_append_drop]
  | close n =>
      have hrest : s.drop n <:+ document :=
        (List.drop_suffix n s).trans ((List.suffix_append read s).trans hsuffix)
      exact ⟨hrest, hinside.endElement ((List.prefix_append read s).isInfix.trans hsuffix.isInfix)⟩

/-- A turn goes on at the place behind what it took. -/
theorem At.turn {mode' : RawMode} (hstart : nextConstruct? mode s = some start)
    (hturn : constructTurn final mode (s.drop start) = .advance tokens n mode')
    (h : At document (s.drop start) mode b) :
    At document (s.drop (start + n)) mode' (tokens.foldl Builder.add b) := by
  rw [← List.drop_drop]
  cases mode with
  | none =>
      rw [← List.take_append_drop n (s.drop start)] at h
      exact h.plainTurn (plainTurn_constructTurn hturn)
  | some name =>
      obtain ⟨rest, hrest⟩ := exists_of_rawEndIndex? hstart
      exact h.rawTurn (rawTurn_constructTurn hrest hturn)

theorem At.stop (hstart : nextConstruct? mode s = some start)
    (hturn : constructTurn final mode (s.drop start) = .stop tokens n)
    (h : At document (s.drop start) mode b) :
    At document (s.drop (start + n)) mode (tokens.foldl Builder.add b) := by
  rw [← List.drop_drop]
  cases mode with
  | none =>
      rw [← List.take_append_drop n (s.drop start)] at h
      exact h.plainTurn (plainTurn_of_stop hturn)
  | some name =>
      obtain ⟨rest, hrest⟩ := exists_of_rawEndIndex? hstart
      obtain ⟨rfl, rfl⟩ := eq_nil_of_stop hrest hturn
      exact h

/-- A pass goes on at the place behind what it took. -/
theorem At.pass {mode' : RawMode} (h : At document s mode b)
    (hpass : Markup.pass final mode s = .ok (tokens, mode', rest)) :
    At document rest mode' (tokens.foldl Builder.add b) := by
  -- By induction on the turns, each of which keeps `At` from one place to the next.
  fun_induction Markup.pass final mode s generalizing b tokens with
  | case1 mode s hempty =>
      cases hpass
      exact List.isEmpty_iff.mp hempty ▸ h
  | case2 mode s _ _ _ =>
      cases hpass
      exact h
  | case3 mode s _ _ hmode =>
      cases hpass
      cases mode with
      | none => exact ⟨List.nil_suffix, h.2.collect s⟩
      | some name => exact absurd rfl hmode
  | case4 mode s _ start hstart before tokens n next hturn =>
      rename_i ih
      obtain ⟨⟨more, last, left⟩, hmore, heq⟩ := Result.exists_of_bind_eq_ok hpass
      cases heq
      rw [← List.take_append_drop start s] at h
      rw [List.foldl_append, List.foldl_append]
      exact ih (h.textTokens.turn hstart hturn) hmore
  | case5 mode s _ start hstart before tokens n =>
      rename_i hturn
      cases hpass
      rw [← List.take_append_drop start s] at h
      rw [List.foldl_append]
      exact h.textTokens.stop hstart hturn
  | case6 => cases hpass

/-- Nodes at the end of the document, whether or not a raw text element is open. -/
theorem At.finish (h : At document rest mode b) :
    ∀ node ∈ b.finish, node.IsVerbatim document := by
  rw [Builder.finish]
  cases mode with
  | none =>
      intro node hnode
      exact (h.2.flush_text.closeMany _).top node (List.mem_reverse.mp hnode)
  | some name =>
      obtain ⟨read, hsuffix, hinside⟩ := h
      have hread : read <:+: document :=
        (List.prefix_append read rest).isInfix.trans hsuffix.isInfix
      obtain ⟨attributes, children, outer, hstack⟩ := hinside.exists_stack_flush
      intro node hnode
      rw [hstack, List.length_cons] at hnode
      exact (hinside.closeMany_flush hread _).top node (List.mem_reverse.mp hnode)

end Builder

theorem renderNodes_text (text : String) : renderNodes true [.text text] = text.toList := by
  rw [renderNodes, renderNodes, List.append_nil]
  rfl

/-- The content of scripts and styles outside all other elements is taken from the document
as it is. -/
theorem isVerbatim_of_parse {content : String} {nodes : List Node}
    (h : parse content = .ok nodes) : ∀ node ∈ nodes, node.IsVerbatim content.toList := by
  obtain ⟨ts, htokens, hnodes⟩ := Result.exists_of_bind_eq_ok h
  cases hnodes
  rw [Markup.tokens] at htokens
  obtain ⟨⟨first, mode, middle⟩, hfirst, hrest⟩ := Result.exists_of_bind_eq_ok htokens
  obtain ⟨⟨second, last, rest⟩, hsecond, heq⟩ := Result.exists_of_bind_eq_ok hrest
  cases heq
  have hstart : Builder.At content.toList content.toList none {} :=
    ⟨List.suffix_rfl, { top := nofun, closed := nofun, stack := nofun }⟩
  have hread := (hstart.pass hfirst).pass hsecond
  rw [ofTokens, List.foldl_append, List.foldl_append]
  cases last with
  | none =>
      rw [← List.append_nil rest] at hread
      exact hread.textTokens.finish
  | some name => exact hread.finish

end ComponentCompiler.Markup

namespace ComponentCompiler

theorem BlockKind.isRawText_of_ofName? {name : String} {kind : BlockKind}
    (h : ofName? name = some kind) (hkind : kind ≠ .template) :
    Markup.isRawText name = true := by
  obtain rfl : kind.name = name := by simpa using List.find?_some h
  cases kind with
  | template => exact absurd rfl hkind
  | style => rfl
  | script => rfl

/-- A script or style with more than blanks in it stands in the document as it is. -/
theorem Section.inner_infix_of_parse {content : String} {doc : Document} {part : Section}
    (hdoc : Document.parse content = .ok doc) (hpart : part ∈ doc.sections)
    (hkind : part.kind ≠ .template)
    (hvisible : part.inner.toList.any (!Text.isBlank ·) = true) :
    part.inner.toList <:+: content.toList := by
  obtain ⟨nodes, hnodes, hparsed⟩ := Result.exists_of_bind_eq_ok hdoc
  cases hparsed
  obtain ⟨node, hnode, hsection⟩ := List.mem_filterMap.mp hpart
  have hverbatim := Markup.isVerbatim_of_parse hnodes node hnode
  split at hsection
  case h_2 => cases hsection
  case h_1 name attributes children =>
    obtain ⟨kind, hname, rfl⟩ := Option.map_eq_some_iff.mp hsection
    have hraw : (kind != .template) = true := by simpa using hkind
    rw [Section.inner, String.toList_ofList, hraw] at hvisible ⊢
    obtain rfl | ⟨text, rfl, htext⟩ : children = [] ∨ ∃ text : String,
        children = [.text text] ∧ (text.toList <:+: content.toList ∨
          text.toList.all Text.isBlank = true) :=
      hverbatim (BlockKind.isRawText_of_ofName? hname hkind)
    · exact List.nil_infix
    · rw [Markup.renderNodes_text] at hvisible ⊢
      refine htext.resolve_right fun hblank => ?_
      obtain ⟨c, hc, hshown⟩ := List.any_eq_true.mp hvisible
      rw [List.all_eq_true.mp hblank c hc] at hshown
      cases hshown

end ComponentCompiler
