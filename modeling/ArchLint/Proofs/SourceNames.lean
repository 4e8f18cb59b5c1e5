import ArchLint.Source.Units
import Mathlib.Data.List.TakeWhile
import Mathlib.Tactic.SplitIfs

namespace ArchLint.Source

/-- An identifier as it is spelled: a letter, then letters and digits, all in
all no keyword. -/
structure IsWord (x : String) : Prop where
  spelled : ∃ c cs, x.toList = c :: cs ∧ isNameStart c = true ∧ ∀ d ∈ cs, isNameChar d = true
  not_keyword : x ∉ keywords

/-- If a token is a name, it is spelled like one. -/
def TokenKind.IsSound (kind : TokenKind) : Prop :=
  ∀ x, kind = .name x → IsWord x

section Scanning

def Piece.IsSound : Piece → Prop
  | .token kind _ => kind.IsSound
  | .long kind _ _ => kind.IsSound
  | _ => True

theorem lineComment_isSound (atLineStart : Bool) (s : List Char) :
    (lineComment atLineStart s).IsSound := by
  unfold lineComment
  generalize s.takeWhile (· != '\n') = body
  dsimp only
  generalize (if body.getLast? = some '\r' then body.dropLast else body) = body
  split
  · trivial
  · rintro x ⟨⟩

theorem blockComment_isSound (s : List Char) : (blockComment s).IsSound := by
  unfold blockComment
  split
  · trivial
  · split
    · rintro x ⟨⟩
    · trivial

theorem rawText_isSound (s : List Char) : (rawText s).IsSound := by
  unfold rawText
  dsimp only
  split
  · trivial
  · rintro x ⟨⟩

theorem quotedText_isSound (fuel : Nat) (s : List Char) : (quotedText fuel s).IsSound := by
  unfold quotedText
  split
  · trivial
  · rintro x ⟨⟩

theorem word_isSound {c : Char} {rest : List Char} (hc : isNameStart c = true) :
    (if keywords.elem (String.ofList (c :: rest.takeWhile isNameChar)) then
      TokenKind.fixed (String.ofList (c :: rest.takeWhile isNameChar))
    else .name (String.ofList (c :: rest.takeWhile isNameChar))).IsSound := by
  intro x hx
  split at hx
  · cases hx
  · rename_i hkeyword
    cases hx
    refine ⟨⟨c, rest.takeWhile isNameChar, String.toList_ofList, hc, ?_⟩, by simpa using hkeyword⟩
    intro d hd
    exact List.mem_takeWhile_imp hd

theorem firstPiece_isSound {fuel : Nat} {atLineStart : Bool} {s : List Char} {piece : Piece}
    (h : firstPiece fuel atLineStart s = some piece) : piece.IsSound := by
  cases s with
  | nil => cases h
  | cons c rest =>
      rw [firstPiece, Option.some.injEq] at h
      subst h
      split_ifs with hline hblank hname hnumber hquote hcharacter hraw hsemicolon
      · trivial
      · trivial
      · exact word_isSound hname
      · split
        · rintro x ⟨⟩
        · trivial
      · exact quotedText_isSound fuel rest
      · split
        · rintro x ⟨⟩
        · trivial
      · exact rawText_isSound rest
      · rintro x ⟨⟩
      · split
        · exact lineComment_isSound atLineStart _
        · exact blockComment_isSound _
        · split
          · rintro x ⟨⟩
          · trivial

theorem forall_mem_lineEnd {tokens : List Token} (h : ∀ t ∈ tokens, t.kind.IsSound)
    (ends : Bool) (line : Nat) :
    ∀ t ∈ (if ends then ⟨.lineEnd, line⟩ :: tokens else tokens), t.kind.IsSound := by
  have hend : TokenKind.lineEnd.IsSound := by rintro x ⟨⟩
  split
  · exact List.forall_mem_cons.mpr ⟨hend, h⟩
  · exact h

theorem tokensFrom_isSound {fuel line : Nat} {pending atLineStart : Bool} {s : List Char}
    {tokens : List Token} (h : tokensFrom fuel line pending atLineStart s = some tokens) :
    ∀ t ∈ tokens, t.kind.IsSound := by
  induction fuel generalizing line pending atLineStart s tokens with
  | zero => cases h
  | succ n ih =>
      have hpiece : ∀ piece, firstPiece n atLineStart s = some piece → piece.IsSound := fun _ =>
        firstPiece_isSound
      rw [tokensFrom] at h
      split at h
      · cases h
        have hfinish : ∀ t ∈ [(⟨.finish, line⟩ : Token)], t.kind.IsSound := by
          rintro t ht x hx
          rw [List.mem_singleton.mp ht] at hx
          cases hx
        have hends := forall_mem_lineEnd hfinish pending line
        split_ifs at hends ⊢ <;> exact hends
      · cases h
      · exact ih h
      · obtain ⟨later, hlater, hsome⟩ := Option.bind_eq_some_iff.mp h
        cases hsome
        exact forall_mem_lineEnd (ih hlater) pending line
      · rename_i kind rest hfirst
        obtain ⟨later, hlater, hsome⟩ := Option.bind_eq_some_iff.mp h
        cases hsome
        exact List.forall_mem_cons.mpr ⟨hpiece _ hfirst, ih hlater⟩
      · rename_i kind lines rest hfirst
        have hkind : kind.IsSound := hpiece _ hfirst
        split at h
        · obtain ⟨later, hlater, hsome⟩ := Option.bind_eq_some_iff.mp h
          cases hsome
          exact List.forall_mem_cons.mpr ⟨hkind, forall_mem_lineEnd (ih hlater) _ line⟩
        · obtain ⟨later, hlater, hsome⟩ := Option.bind_eq_some_iff.mp h
          cases hsome
          exact List.forall_mem_cons.mpr ⟨hkind, ih hlater⟩

theorem tokens?_isSound {text : String} {tokens : List Token} (h : tokens? text = some tokens) :
    ∀ t ∈ tokens, t.kind.IsSound := by
  obtain ⟨-, hfrom⟩ := Option.ite_none_left_eq_some.mp h
  exact tokensFrom_isSound hfrom

theorem Lexeme.exists_token {previous : Nat} {comments : List Comment} {tokens : List Token}
    {l : Lexeme} (hl : l ∈ Lexeme.ofTokensFrom previous comments tokens) :
    ∃ t ∈ tokens, l.kind = t.kind := by
  induction tokens generalizing previous comments with
  | nil => cases hl
  | cons t tokens ih =>
      rw [Lexeme.ofTokensFrom] at hl
      split at hl
      · obtain ⟨t', ht', hkind⟩ := ih hl
        exact ⟨t', List.mem_cons_of_mem t ht', hkind⟩
      · rcases List.mem_cons.mp hl with rfl | hl
        · exact ⟨t, List.mem_cons_self, rfl⟩
        · obtain ⟨t', ht', hkind⟩ := ih hl
          exact ⟨t', List.mem_cons_of_mem t ht', hkind⟩

end Scanning

namespace Parser

/-- Whatever a reader returns has a property. -/
def Yields {α : Type} (lexemes : Array Lexeme) (P : α → Prop) (p : Parser α) : Prop :=
  ∀ place a place', (p.run lexemes).run place = some (a, place') → P a

namespace Yields

variable {lexemes : Array Lexeme} {α β : Type} {P : α → Prop} {Q : β → Prop}

theorem fail : Yields lexemes P Parser.fail := by
  rintro place a place' ⟨⟩

theorem pure {a : α} (ha : P a) : Yields lexemes P (Pure.pure a) := by
  intro place b place' h
  cases h
  exact ha

theorem bind {p : Parser α} {f : α → Parser β} (hp : Yields lexemes P p)
    (hf : ∀ a, P a → Yields lexemes Q (f a)) : Yields lexemes Q (p >>= f) := by
  intro place b place' h
  rw [ReaderT.run_bind, StateT.run_bind] at h
  obtain ⟨⟨a, between⟩, hfirst, hsecond⟩ := Option.bind_eq_some_iff.mp h
  exact hf a (hp _ _ _ hfirst) _ _ _ hsecond

theorem after {p : Parser α} {f : α → Parser β} (hf : ∀ a, Yields lexemes Q (f a)) :
    Yields lexemes Q (p >>= f) :=
  bind (P := fun _ => True) (fun _ _ _ _ => trivial) fun a _ => hf a

theorem ite {c : Prop} [Decidable c] {p q : Parser α} (hp : c → Yields lexemes P p)
    (hq : ¬c → Yields lexemes P q) : Yields lexemes P (if c then p else q) := by
  split
  · exact hp ‹c›
  · exact hq ‹¬c›

end Yields

section Lists

variable {lexemes : Array Lexeme} {α : Type} {P : α → Prop} {test : Parser Bool} {item : Parser α}

theorem repeatWhile_yields (hitem : Yields lexemes P item) (n : Nat) :
    Yields lexemes (fun xs => ∀ x ∈ xs, P x) (repeatWhile test item n) := by
  induction n with
  | zero => exact .fail
  | succ n ih =>
      refine .after fun found => .ite (fun _ => ?_) fun _ => .pure (by simp)
      refine .bind hitem fun x hx => .bind ih fun xs hxs => .pure ?_
      exact List.forall_mem_cons.mpr ⟨hx, hxs⟩

theorem commaList_yields (hitem : Yields lexemes P item) (limit : Nat) :
    Yields lexemes (fun xs => ∀ x ∈ xs, P x) (commaList item limit) := by
  refine .bind hitem fun x hx => .bind (repeatWhile_yields (.after fun _ => hitem) limit) ?_
  exact fun xs hxs => .pure (List.forall_mem_cons.mpr ⟨hx, hxs⟩)

theorem closedList_yields {closing : String} (hitem : Yields lexemes P item) (n : Nat) :
    Yields lexemes (fun xs => ∀ x ∈ xs, P x) (closedList closing item n) := by
  induction n with
  | zero => exact .fail
  | succ n ih =>
      refine .after fun closed => .after fun next => .ite (fun _ => .pure (by simp)) fun _ => ?_
      refine .bind hitem fun x hx => .after fun comma => .ite (fun _ => ?_) fun _ => ?_
      · exact .bind ih fun xs hxs => .pure (List.forall_mem_cons.mpr ⟨hx, hxs⟩)
      · exact .after fun _ => .ite (fun _ => .pure (by simpa using hx)) fun _ => .fail

end Lists

section Names

variable {lexemes : Array Lexeme} (hlexemes : ∀ l ∈ lexemes, l.kind.IsSound)

include hlexemes

theorem kind_yields : Yields lexemes TokenKind.IsSound kind := by
  intro place k place' h
  cases h
  cases hl : lexemes[place]? with
  | none =>
      rw [Option.getD_none]
      rintro x ⟨⟩
  | some l => exact hlexemes l (Array.mem_of_getElem? hl)

theorem identifier_yields : Yields lexemes IsWord identifier := by
  refine .bind (kind_yields hlexemes) fun k hk => ?_
  split
  · exact .after fun _ => .pure (hk _ rfl)
  · exact .fail

end Names

end Parser

/-- If a tree can be the type of a receiver, the name of that type is a word. -/
def Tree.NamesWord (t : Tree) : Prop :=
  ∀ x, receiverName? t = some x → IsWord x

section Receivers

variable {x : String} {t : Tree}

theorem Tree.namesWord_name (hx : IsWord x) : (Tree.name x).NamesWord := by
  rintro y ⟨⟩
  exact hx

theorem Tree.namesWord_of_none (ht : receiverName? t = none) : t.NamesWord := by
  intro x hx
  rw [ht] at hx
  cases hx

theorem Tree.NamesWord.index (ht : t.NamesWord) (arguments : List Tree) :
    (Tree.node .index (t :: arguments)).NamesWord :=
  ht

theorem Tree.NamesWord.star (ht : t.NamesWord) : (Tree.node .star [t]).NamesWord :=
  ht

theorem Tree.NamesWord.paren (ht : t.NamesWord) : (Tree.node .paren [t]).NamesWord :=
  ht

end Receivers

/-- The types that the rules read name words. -/
def Rules.IsSound (lexemes : Array Lexeme) (r : Rules) : Prop :=
  Parser.Yields lexemes (fun o => ∀ t ∈ o, t.NamesWord) r.type?

namespace Grammar

open ArchLint.Source.Parser

section Types

variable {lexemes : Array Lexeme} {r : Rules} {name : String}

theorem type_yields (hr : r.IsSound lexemes) : Yields lexemes Tree.NamesWord r.type := by
  refine .bind hr fun o ho => ?_
  split
  · exact .pure (ho _ rfl)
  · exact .fail

theorem typeNameFrom_yields (hname : IsWord name) :
    Yields lexemes Tree.NamesWord (typeNameFrom name) := by
  refine .after fun _ => .ite (fun _ => ?_) fun _ => .pure (Tree.namesWord_name hname)
  exact .after fun _ => .pure (Tree.namesWord_of_none rfl)

theorem typeInstance_yields {t : Tree} (ht : t.NamesWord) :
    Yields lexemes Tree.NamesWord (typeInstance r t) := by
  refine .after fun _ => .after fun arguments => .after fun _ => .ite (fun _ => .fail) fun _ => ?_
  exact .pure (ht.index arguments)

theorem qualifiedFrom_yields (hname : IsWord name) :
    Yields lexemes Tree.NamesWord (qualifiedFrom r name) := by
  refine .bind (typeNameFrom_yields hname) fun t ht => .after fun _ => ?_
  refine .ite (fun _ => ?_) fun _ => ?_
  · exact typeInstance_yields ht
  · exact .pure ht

theorem arrayRest_yields (length : Option Tree) :
    Yields lexemes Tree.NamesWord (arrayRest r length) := by
  unfold arrayRest
  extract_lets finish
  have hfinish : ∀ length, Yields lexemes Tree.NamesWord (finish length) := fun _ =>
    .after fun _ => .after fun _ => .pure (Tree.namesWord_of_none rfl)
  split
  · exact .after hfinish
  · refine .after fun _ => .ite (fun _ => .after hfinish) fun _ => ?_
    exact .after fun _ => .ite (fun _ => .after hfinish) fun _ => .after fun _ => .after hfinish

theorem structureType_yields : Yields lexemes Tree.NamesWord (structureType r) :=
  .after fun _ => .after fun _ => .after fun _ => .after fun _ =>
    .pure (Tree.namesWord_of_none rfl)

theorem functionType_yields : Yields lexemes Tree.NamesWord (functionType r) :=
  .after fun _ => .after fun _ => .pure (Tree.namesWord_of_none rfl)

theorem interfaceType_yields : Yields lexemes Tree.NamesWord (interfaceType r) :=
  .after fun _ => .after fun _ => .after fun _ => .after fun _ =>
    .pure (Tree.namesWord_of_none rfl)

theorem mapType_yields : Yields lexemes Tree.NamesWord (mapType r) :=
  .after fun _ => .after fun _ => .after fun _ => .after fun _ => .after fun _ =>
    .pure (Tree.namesWord_of_none rfl)

theorem channelType_yields : Yields lexemes Tree.NamesWord (channelType r) := by
  refine .after fun _ => ?_
  extract_lets finish
  have hfinish : ∀ direction, Yields lexemes Tree.NamesWord (finish direction) := fun _ =>
    .after fun _ => .pure (Tree.namesWord_of_none rfl)
  refine .ite (fun _ => ?_) fun _ => .after fun _ => .after fun _ => .after hfinish
  exact .after fun _ => .ite (fun _ => .after hfinish) fun _ => .after hfinish

theorem some_yields {p : Parser Tree} (hp : Yields lexemes Tree.NamesWord p) :
    Yields lexemes (fun o => ∀ t ∈ o, t.NamesWord) (do return some (← p)) := by
  refine .bind hp fun t ht => .pure ?_
  rintro _ ⟨⟩
  exact ht

theorem type?_yields (hlexemes : ∀ l ∈ lexemes, l.kind.IsSound) (hr : r.IsSound lexemes) :
    Yields lexemes (fun o => ∀ t ∈ o, t.NamesWord) (type? r) := by
  refine .bind (kind_yields hlexemes) fun k hk => ?_
  split
  · rename_i name
    exact .after fun _ => some_yields (qualifiedFrom_yields (hk name rfl))
  · split
    · exact .after fun _ => some_yields (arrayRest_yields none)
    · exact some_yields structureType_yields
    · exact .after fun _ => .bind (type_yields hr) fun t ht => .pure (by simpa using ht.star)
    · exact some_yields functionType_yields
    · exact some_yields interfaceType_yields
    · exact some_yields mapType_yields
    · exact some_yields channelType_yields
    · exact some_yields channelType_yields
    · refine .after fun _ => .bind (type_yields hr) fun t ht => .after fun _ => .pure ?_
      simpa using ht.paren
    · exact .pure (by simp)
  · exact .pure (by simp)

end Types

end Grammar

theorem Rules.tied_isSound {lexemes : Array Lexeme} (hlexemes : ∀ l ∈ lexemes, l.kind.IsSound)
    (limit fuel : Nat) : (Rules.tied limit fuel).IsSound lexemes := by
  induction fuel with
  | zero => exact .fail
  | succ n ih => exact Grammar.type?_yields hlexemes ih

namespace Grammar

open ArchLint.Source.Parser

/-- The name and the type of a parameter, as far as it has them, are sound. -/
def Parameter.IsSound (p : Parameter) : Prop :=
  (∀ x ∈ p.name, IsWord x) ∧ ∀ t ∈ p.type, t.NamesWord

section Parameters

variable {lexemes : Array Lexeme} {r : Rules} {name : String}

theorem Parameter.isSound_of_type {t : Tree} (ht : t.NamesWord) :
    Parameter.IsSound ⟨none, some t⟩ :=
  ⟨by simp, by simpa using ht⟩

theorem Parameter.isSound_of_both {t : Tree} (hname : IsWord name) (ht : t.NamesWord) :
    Parameter.IsSound ⟨some name, some t⟩ :=
  ⟨by simpa using hname, by simpa using ht⟩

theorem arrayFieldOrInstance_yields (hname : IsWord name) :
    Yields lexemes (fun field => Parameter.IsSound ⟨field.1, some field.2⟩)
      (arrayFieldOrInstance r name) := by
  have harray : ∀ parts, Parameter.IsSound ⟨some name, some (.node .array parts)⟩ := by
    intro parts
    exact Parameter.isSound_of_both hname (Tree.namesWord_of_none rfl)
  have hindexed : ∀ arguments, Parameter.IsSound ⟨none, some (indexed (.name name) arguments)⟩ := by
    intro arguments
    exact Parameter.isSound_of_type ((Tree.namesWord_name hname).index arguments)
  refine .after fun _ => .after fun _ => ?_
  refine .ite (fun _ => .after fun _ => .pure (harray _)) fun _ => ?_
  refine .after fun first => .after fun more => .after fun _ => ?_
  split
  case h_3 => exact .pure (hindexed _)
  all_goals
    refine .after fun o => ?_
    split
    · exact .ite (fun _ => .pure (harray _)) fun _ => .fail
    · exact .pure (hindexed _)

theorem dotsType_yields : Yields lexemes Tree.NamesWord (dotsType r) :=
  .after fun _ => .after fun _ => .pure (Tree.namesWord_of_none rfl)

theorem namedParameter_yields (hr : r.IsSound lexemes) (hname : IsWord name) :
    Yields lexemes Parameter.IsSound (namedParameter r false name) := by
  have hbare : Parameter.IsSound ⟨some name, none⟩ := ⟨by simpa using hname, by simp⟩
  have hboth : ∀ t : Tree, t.NamesWord → Parameter.IsSound ⟨some name, some t⟩ := fun t ht =>
    Parameter.isSound_of_both hname ht
  unfold namedParameter
  extract_lets finish
  have hfinish : ∀ p, p.IsSound → Yields lexemes Parameter.IsSound (finish p) := by
    intro p hp
    dsimp only [finish]
    split
    · exact .after fun _ => .ite (fun hconstraint => by simp at hconstraint) fun _ => .pure hp
    · exact .pure hp
  refine .after fun k => ?_
  split
  · exact .bind (type_yields hr) fun t ht => hfinish _ (hboth t ht)
  · refine .ite (fun _ => ?_) fun _ => .ite (fun _ => ?_) fun _ => .ite (fun _ => ?_) fun _ =>
      .ite (fun h => ?_) fun _ => .ite (fun h => ?_) fun _ => .ite (fun _ => ?_) fun _ => ?_
    · exact .bind (arrayFieldOrInstance_yields hname) fun field hfield => hfinish _ hfield
    · exact .bind dotsType_yields fun t ht => .pure (hboth t ht)
    · exact .bind (qualifiedFrom_yields hname) fun t ht =>
        hfinish _ (Parameter.isSound_of_type ht)
    · exact absurd h.2 (by simp)
    · exact absurd h.2 (by simp)
    · exact .bind (type_yields hr) fun t ht => hfinish _ (hboth t ht)
    · exact .pure hbare
  · exact .pure hbare

theorem parameter_yields (hlexemes : ∀ l ∈ lexemes, l.kind.IsSound) (hr : r.IsSound lexemes) :
    Yields lexemes Parameter.IsSound (parameter r false) := by
  refine .bind (kind_yields hlexemes) fun k hk => ?_
  split
  · exact .after fun _ => namedParameter_yields hr (hk _ rfl)
  · refine .ite (fun h => absurd h.2 (by simp)) fun _ => .ite (fun _ => ?_) fun _ =>
      .ite (fun _ => ?_) fun _ => .fail
    · exact .bind dotsType_yields fun t ht => .pure (Parameter.isSound_of_type ht)
    · refine .bind (type_yields hr) fun t ht => .after fun _ => ?_
      exact .ite (fun h => absurd h (by simp)) fun _ => .pure (Parameter.isSound_of_type ht)
  · exact .fail

theorem withTypes_isSound {list : List Parameter} {pairs : List (String × Tree)}
    (hlist : ∀ p ∈ list, p.IsSound) (h : withTypes list = some pairs) :
    ∀ pair ∈ pairs, pair.2.NamesWord := by
  induction list generalizing pairs with
  | nil =>
      cases h
      simp
  | cons p list ih =>
      obtain ⟨hp, hlist⟩ := List.forall_mem_cons.mp hlist
      obtain ⟨later, hlater, h⟩ := Option.bind_eq_some_iff.mp h
      obtain ⟨name, -, h⟩ := Option.bind_eq_some_iff.mp h
      have hrest := ih hlist hlater
      split at h
      · rename_i t ht
        cases h
        exact List.forall_mem_cons.mpr ⟨hp.2 t ht, hrest⟩
      · -- the type is that of the next parameter
        split at h
        · cases h
          have hnext := hrest _ List.mem_cons_self
          exact List.forall_mem_cons.mpr ⟨hnext, hrest⟩
        · cases h

theorem fieldsOf?_isSound {isConstraint dotsAllowed : Bool} {list : List Parameter}
    {fields : List Tree} (hlist : ∀ p ∈ list, p.IsSound)
    (h : fieldsOf? isConstraint dotsAllowed list = some fields) :
    ∀ field ∈ fields, (fieldType field).NamesWord := by
  have hplaced : ∀ {o : Option (List Tree)},
      (o.bind fun list => if areDotsPlaced dotsAllowed list then some list else none) =
        some fields → o = some fields := by
    intro o ho
    obtain ⟨fields', hfields, hdots⟩ := Option.bind_eq_some_iff.mp ho
    exact hfields.trans (Option.ite_none_right_eq_some.mp hdots).2
  unfold fieldsOf? at h
  extract_lets finish at h
  split_ifs at h
  · obtain ⟨pairs, hpairs, rfl⟩ := Option.map_eq_some_iff.mp (hplaced h)
    intro field hfield
    obtain ⟨pair, hpair, rfl⟩ := List.mem_map.mp hfield
    exact withTypes_isSound hlist hpairs pair hpair
  · cases hplaced h
  · cases hplaced h
    intro field hfield
    obtain ⟨p, hp, hfield⟩ := List.mem_filterMap.mp hfield
    obtain ⟨t, ht, rfl⟩ := Option.map_eq_some_iff.mp hfield
    obtain ⟨hname, htype⟩ := hlist p hp
    rcases Option.or_eq_some_iff.mp ht with ht | ⟨-, ht⟩
    · exact htype t ht
    · obtain ⟨x, hx, rfl⟩ := Option.map_eq_some_iff.mp ht
      exact Tree.namesWord_name (hname x hx)

theorem parameters_yields (hlexemes : ∀ l ∈ lexemes, l.kind.IsSound) (hr : r.IsSound lexemes)
    (dotsAllowed : Bool) :
    Yields lexemes (fun fields => ∀ field ∈ fields, (fieldType field).NamesWord)
      (parameters r dotsAllowed) := by
  refine .after fun _ => .bind (closedList_yields (parameter_yields hlexemes hr) r.limit) ?_
  refine fun list hlist => .after fun _ => ?_
  unfold fieldsOf
  split
  · exact .pure (fieldsOf?_isSound hlist ‹_›)
  · exact .fail

end Parameters

end Grammar

/-- The names that a declaration gives are words. -/
def Declaration.IsNamed : Declaration → Prop
  | .type name _ _ _ => IsWord name
  | .values _ names _ _ _ => ∀ name ∈ names, IsWord name
  | .function receiver name _ _ _ =>
      IsWord name ∧ ∀ field ∈ receiver, (fieldType field).NamesWord

namespace Grammar

open ArchLint.Source.Parser

section Declarations

variable {lexemes : Array Lexeme} {r : Rules} (hlexemes : ∀ l ∈ lexemes, l.kind.IsSound)

include hlexemes

theorem typeSpec_yields : Yields lexemes (fun spec => IsWord spec.1) (typeSpec r) := by
  refine .bind (identifier_yields hlexemes) fun name hname => .after fun _ => ?_
  -- the name is read first, and none of the branches after it changes it
  extract_lets finish afterFirst
  have hfinish : ∀ parts, Yields lexemes (fun spec : String × List Tree × Tree × String =>
      IsWord spec.1) (finish parts) := fun _ => .after fun _ => .pure hname
  refine .ite (fun _ => ?_) fun _ => .after fun _ => .after fun _ => .after hfinish
  refine .after fun _ => .ite (fun _ => ?_) fun _ => .after fun _ => .after hfinish
  refine .after fun first => .after fun _ => ?_
  have hafterFirst : ∀ x, Yields lexemes (fun spec : String × List Tree × Tree × String =>
      IsWord spec.1) (afterFirst x) := by
    intro x
    refine .after fun _ => .after fun _ => ?_
    split
    · refine .ite (fun _ => ?_) fun _ => .after fun _ => .after hfinish
      exact .after fun _ => .after fun _ => .after fun _ => .after hfinish
    · exact .after fun _ => .after hfinish
  exact .ite (fun _ => .after hafterFirst) fun _ => .after fun _ => .after hafterFirst

theorem valueSpec_yields (isConstant : Bool) :
    Yields lexemes (fun spec => ∀ name ∈ spec.1, IsWord name) (valueSpec r isConstant) := by
  refine .bind (commaList_yields (identifier_yields hlexemes) r.limit) fun names hnames => ?_
  refine .after fun _ => ?_
  extract_lets finish
  have hfinish : ∀ type, Yields lexemes (fun spec : List String × List Tree × List Tree × String =>
      ∀ name ∈ spec.1, IsWord name) (finish type) := by
    intro type
    refine .after fun _ => .ite (fun _ => ?_) fun _ => ?_
    · exact .after fun _ => .after fun _ => .pure hnames
    · exact .after fun _ => .after fun _ => .pure hnames
  refine .ite (fun _ => .after fun _ => .after hfinish) fun _ => ?_
  exact .ite (fun _ => .after hfinish) fun _ => .after fun _ => .after hfinish

theorem functionDeclaration_yields (hr : r.IsSound lexemes) :
    Yields lexemes Declaration.IsNamed (functionDeclaration r) := by
  refine .after fun _ => .after fun _ => .after fun _ => ?_
  extract_lets finish
  have hfinish : ∀ receiver : List Tree, (∀ field ∈ receiver, (fieldType field).NamesWord) →
      Yields lexemes Declaration.IsNamed (finish receiver) := by
    intro receiver hreceiver
    refine .bind (identifier_yields hlexemes) fun name hname => .after fun _ => .after fun _ => ?_
    refine .after fun _ => .ite (fun _ => ?_) fun _ => .after fun _ => .after fun _ => ?_
    · exact .after fun _ => .after fun _ => .after fun _ => .pure ⟨hname, hreceiver⟩
    · exact .ite (fun _ => .after fun _ => .pure ⟨hname, hreceiver⟩) fun _ =>
        .after fun _ => .pure ⟨hname, hreceiver⟩
  refine .ite (fun _ => .bind (parameters_yields hlexemes hr true) hfinish) fun _ => ?_
  exact .bind (P := fun receiver => receiver = []) (.pure rfl) fun receiver hreceiver =>
    hfinish receiver (by simp [hreceiver])

omit hlexemes in
theorem grouped_yields {α : Type} {P : α → Prop} {spec : String → Parser α}
    (hspec : ∀ leading, Yields lexemes P (spec leading)) :
    Yields lexemes (fun xs => ∀ x ∈ xs, P x) (grouped r spec) := by
  refine .after fun _ => .after fun _ => .ite (fun _ => ?_) fun _ => ?_
  · refine .bind (repeatWhile_yields (.after fun _ => hspec _) r.limit) fun list hlist => ?_
    exact .after fun _ => .after fun _ => .pure hlist
  · exact .bind (hspec "") fun x hx => .pure (by simpa using hx)

theorem declaration_yields (hr : r.IsSound lexemes) :
    Yields lexemes (fun ds => ∀ d ∈ ds, d.IsNamed) (declaration r) := by
  refine .after fun _ => .after fun _ => .ite (fun _ => ?_) fun _ => .after fun _ =>
    .ite (fun _ => ?_) fun _ => .after fun _ => .ite (fun _ => .after fun isConstant => ?_) fun _ =>
      .fail
  · refine .bind (functionDeclaration_yields hlexemes hr) fun d hd => .pure ?_
    simpa using hd
  · exact grouped_yields fun leading => .bind (typeSpec_yields hlexemes) fun spec hspec =>
      .pure hspec
  · exact grouped_yields fun leading => .bind (valueSpec_yields hlexemes isConstant)
      fun spec hspec => .pure hspec

end Declarations

end Grammar

namespace File

open ArchLint.Source.Parser

theorem parser_yields {lexemes : Array Lexeme} {r : Rules}
    (hlexemes : ∀ l ∈ lexemes, l.kind.IsSound) (hr : r.IsSound lexemes) :
    Yields lexemes (fun file => ∀ d ∈ file.declarations, d.IsNamed) (parser r) := by
  refine .after fun _ => .after fun _ => .after fun _ => .after fun imports => ?_
  refine .bind (repeatWhile_yields (Grammar.declaration_yields hlexemes hr) r.limit) ?_
  refine fun groups hgroups => .pure fun d hd => ?_
  obtain ⟨group, hgroup, hd⟩ := List.mem_flatten.mp hd
  exact hgroups group hgroup d hd

theorem isNamed_of_ofText? {text : String} {file : File} (h : ofText? text = some file) :
    ∀ d ∈ file.declarations, d.IsNamed := by
  obtain ⟨tokens, htokens, hfile⟩ := Option.bind_eq_some_iff.mp h
  have hlexemes : ∀ l ∈ (Lexeme.ofTokens tokens).toArray, l.kind.IsSound := by
    intro l hl
    obtain ⟨t, ht, hkind⟩ := Lexeme.exists_token (List.mem_toArray.mp hl)
    rw [hkind]
    exact tokens?_isSound htokens t ht
  obtain ⟨⟨_, place⟩, hrun, rfl⟩ := Option.map_eq_some_iff.mp hfile
  exact parser_yields hlexemes (Rules.tied_isSound hlexemes _ _) _ _ _ hrun

end File

end ArchLint.Source
