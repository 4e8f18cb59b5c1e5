import ArchLint.Proofs.PackageReferences
import ArchLint.Proofs.Records

/-!
The references of a declaration. An inductive relation says which parts of its
code are read, and what stands there decides what the declaration refers to; the
walk over the code finds exactly these names.
-/

namespace ArchLint

namespace Text

variable {c : Char} {word before after : List Char}

theorem cut?_eq_some_iff :
    cut? c word = some (before, after) ↔ word = before ++ c :: after ∧ c ∉ before := by
  induction word generalizing before with
  | nil => simp [cut?]
  | cons d word ih =>
      rw [cut?]
      split
      · rename_i hd
        subst hd
        cases before with
        | nil => simp
        | cons b before =>
            have hother : d :: word = b :: before ++ d :: after → d ∈ b :: before := by
              intro heq
              exact (List.cons.inj heq).1 ▸ List.mem_cons_self
            simp only [Option.some.injEq, Prod.mk.injEq, List.nil_eq, reduceCtorEq, false_and,
              false_iff, not_and, not_not]
            exact hother
      · rename_i hd
        cases before with
        | nil => simp [hd]
        | cons b before =>
            constructor
            · intro h
              obtain ⟨⟨before', after'⟩, hcut, heq⟩ := Option.map_eq_some_iff.mp h
              cases heq
              obtain ⟨rfl, hnot⟩ := ih.mp hcut
              exact ⟨rfl, by simp [Ne.symm hd, hnot]⟩
            · rintro ⟨heq, hnot⟩
              obtain ⟨rfl, rfl⟩ := List.cons.inj heq
              have hcut := ih.mpr ⟨rfl, fun hmem => hnot (List.mem_cons_of_mem d hmem)⟩
              rw [hcut, Option.map_some]

theorem cut?_eq_none_iff : cut? c word = none ↔ c ∉ word := by
  induction word with
  | nil => simp [cut?]
  | cons d word ih =>
      rw [cut?]
      split
      · rename_i hd
        simp [hd]
      · rename_i hd
        simp [ih, Ne.symm hd]

end Text

namespace Source

/-- The second tree stands in the first one in a position where it is read. Of
what stands on the left of a short declaration, the trees with a given property
are read. -/
inductive Tree.Reads (file : File) (counts : Tree → Prop) : Tree → Tree → Prop
  | self {t : Tree} : Reads file counts t t
  | operand {t s : Tree} {member : String} (ht : Reads file counts t s)
      (hqualifier : ∀ y, t = .name y → ¬file.Imports y) :
      Reads file counts (.selector t member) s
  | fieldType {names : List String} {t s : Tree} (ht : Reads file counts t s) :
      Reads file counts (.field names t) s
  | key {k v s : Tree} (hk : Reads file counts k s) (hbare : ∀ y, k ≠ .name y) :
      Reads file counts (.keyed k v) s
  | keyedValue {k v s : Tree} (hv : Reads file counts v s) : Reads file counts (.keyed k v) s
  | target {targets values : List Tree} {t s : Tree} (hmem : t ∈ targets) (hcounts : counts t)
      (ht : Reads file counts t s) : Reads file counts (.define targets values) s
  | definedValue {targets values : List Tree} {v s : Tree} (hmem : v ∈ values)
      (hv : Reads file counts v s) : Reads file counts (.define targets values) s
  | rangeTarget {targets : List Tree} {operand body t s : Tree} (hmem : t ∈ targets)
      (hcounts : counts t) (ht : Reads file counts t s) :
      Reads file counts (.rangeDefine targets operand body) s
  | rangeOperand {targets : List Tree} {operand body s : Tree}
      (hoperand : Reads file counts operand s) :
      Reads file counts (.rangeDefine targets operand body) s
  | rangeBody {targets : List Tree} {operand body s : Tree} (hbody : Reads file counts body s) :
      Reads file counts (.rangeDefine targets operand body) s
  | declaredType {names : List String} {types values : List Tree} {t s : Tree} (hmem : t ∈ types)
      (ht : Reads file counts t s) : Reads file counts (.values names types values) s
  | declaredValue {names : List String} {types values : List Tree} {v s : Tree}
      (hmem : v ∈ values) (hv : Reads file counts v s) :
      Reads file counts (.values names types values) s
  | typeParameter {name : String} {parameters : List Tree} {t type s : Tree}
      (hmem : t ∈ parameters) (ht : Reads file counts t s) :
      Reads file counts (.typed name parameters type) s
  | typeDefinition {name : String} {parameters : List Tree} {type s : Tree}
      (htype : Reads file counts type s) : Reads file counts (.typed name parameters type) s
  | labeled {label : String} {body s : Tree} (hbody : Reads file counts body s) :
      Reads file counts (.labeled label body) s
  | part {shape : Shape} {parts : List Tree} {t s : Tree} (hmem : t ∈ parts)
      (ht : Reads file counts t s) : Reads file counts (.node shape parts) s

namespace Tree.Reads

variable {file : File} {counts : Tree → Prop}

theorem trans {t s r : Tree} (h : t.Reads file counts s) (h' : s.Reads file counts r) :
    t.Reads file counts r := by
  induction h with
  | self => exact h'
  | operand _ hqualifier ih => exact .operand (ih h') hqualifier
  | fieldType _ ih => exact .fieldType (ih h')
  | key _ hbare ih => exact .key (ih h') hbare
  | keyedValue _ ih => exact .keyedValue (ih h')
  | target hmem hcounts _ ih => exact .target hmem hcounts (ih h')
  | definedValue hmem _ ih => exact .definedValue hmem (ih h')
  | rangeTarget hmem hcounts _ ih => exact .rangeTarget hmem hcounts (ih h')
  | rangeOperand _ ih => exact .rangeOperand (ih h')
  | rangeBody _ ih => exact .rangeBody (ih h')
  | declaredType hmem _ ih => exact .declaredType hmem (ih h')
  | declaredValue hmem _ ih => exact .declaredValue hmem (ih h')
  | typeParameter hmem _ ih => exact .typeParameter hmem (ih h')
  | typeDefinition _ ih => exact .typeDefinition (ih h')
  | labeled _ ih => exact .labeled (ih h')
  | part hmem _ ih => exact .part hmem (ih h')

end Tree.Reads

def Mention.tree : Mention → Tree
  | .name x => .name x
  | .member operand k => .selector (.name operand) k

section Walk

variable {file : File} {counts : Tree → Prop} {s t t' : Tree}

theorem Tree.mentions_selector {member : String} (hbare : ∀ y, t ≠ .name y) :
    (Tree.selector t member).mentions = t.mentions := by
  rw [Tree.mentions]
  exact hbare

theorem Tree.mentions_keyed {v : Tree} (hbare : ∀ y, t ≠ .name y) :
    (Tree.keyed t v).mentions = t.mentions ++ v.mentions := by
  rw [Tree.mentions]
  exact hbare

/-- Nothing is invented: what is mentioned is read. -/
theorem Tree.reads_of_mem_mentions (file : File) (counts : Tree → Prop) (t : Tree) :
    ∀ m ∈ t.mentions, t.Reads file counts m.tree := by
  induction t using Tree.mentions.induct
    (motive_2 := fun ts => ∀ m ∈ Tree.mentionsAll ts, ∃ t ∈ ts, t.Reads file counts m.tree) with
  | case1 x =>
      intro m hm
      rw [Tree.mentions, List.mem_singleton] at hm
      exact hm ▸ .self
  | case2 member x =>
      intro m hm
      rw [Tree.mentions, List.mem_singleton] at hm
      exact hm ▸ .self
  | case3 member t hbare ih =>
      intro m hm
      rw [Tree.mentions_selector hbare] at hm
      exact .operand (ih m hm) fun y hy => absurd hy (hbare y)
  | case4 names t ih =>
      intro m hm
      rw [Tree.mentions] at hm
      exact .fieldType (ih m hm)
  | case5 v x ih =>
      intro m hm
      rw [Tree.mentions] at hm
      exact .keyedValue (ih m hm)
  | case6 v k hbare ihk ihv =>
      intro m hm
      rw [Tree.mentions_keyed hbare, List.mem_append] at hm
      rcases hm with hm | hm
      · exact .key (ihk m hm) hbare
      · exact .keyedValue (ihv m hm)
  | case7 targets vs ih =>
      intro m hm
      rw [Tree.mentions] at hm
      obtain ⟨v, hv, hreads⟩ := ih m hm
      exact .definedValue hv hreads
  | case8 targets t b iht ihb =>
      intro m hm
      rw [Tree.mentions, List.mem_append] at hm
      rcases hm with hm | hm
      · exact .rangeOperand (iht m hm)
      · exact .rangeBody (ihb m hm)
  | case9 names ts vs iht ihv =>
      intro m hm
      rw [Tree.mentions, List.mem_append] at hm
      rcases hm with hm | hm
      · obtain ⟨t, ht, hreads⟩ := iht m hm
        exact .declaredType ht hreads
      · obtain ⟨v, hv, hreads⟩ := ihv m hm
        exact .declaredValue hv hreads
  | case10 name ps t ihp iht =>
      intro m hm
      rw [Tree.mentions, List.mem_append] at hm
      rcases hm with hm | hm
      · obtain ⟨parameter, hparameter, hreads⟩ := ihp m hm
        exact .typeParameter hparameter hreads
      · exact .typeDefinition (iht m hm)
  | case11 label b ih =>
      intro m hm
      rw [Tree.mentions] at hm
      exact .labeled (ih m hm)
  | case12 label =>
      intro m hm
      simp [Tree.mentions] at hm
  | case13 shape parts ih =>
      intro m hm
      rw [Tree.mentions] at hm
      obtain ⟨part, hpart, hreads⟩ := ih m hm
      exact .part hpart hreads
  | case14 m hm =>
      simp [Tree.mentionsAll] at hm
  | case15 t ts iht ihts m hm =>
      rw [Tree.mentionsAll, List.mem_append] at hm
      rcases hm with hm | hm
      · exact ⟨t, List.mem_cons_self, iht m hm⟩
      · obtain ⟨other, hother, hreads⟩ := ihts m hm
        exact ⟨other, List.mem_cons_of_mem t hother, hreads⟩

/-- The mentions of a tree are found in another one. A name that is the operand
of a selector and no import is found together with a member. -/
def Tree.IsFoundIn (file : File) (s t : Tree) : Prop :=
  s.mentions ⊆ t.mentions ∨
    ∃ q member, s = .name q ∧ ¬file.Imports q ∧ Mention.member q member ∈ t.mentions

theorem Tree.IsFoundIn.mono (h : s.IsFoundIn file t) (hsubset : t.mentions ⊆ t'.mentions) :
    s.IsFoundIn file t' := by
  rcases h with hall | ⟨q, member, hs, himports, hmem⟩
  · exact .inl (List.Subset.trans hall hsubset)
  · exact .inr ⟨q, member, hs, himports, hsubset hmem⟩

theorem Tree.mentions_subset_mentionsAll {ts : List Tree} (ht : t ∈ ts) :
    t.mentions ⊆ Tree.mentionsAll ts :=
  fun _ hm => Tree.mem_mentionsAll.mpr ⟨t, ht, hm⟩

/-- Nothing is lost: what is read is found, if nothing on the left of short
declarations counts. -/
theorem Tree.Reads.isFoundIn (h : t.Reads file (fun _ => False) s) : s.IsFoundIn file t := by
  induction h with
  | self => exact .inl (List.Subset.refl _)
  | @operand t s member ht hqualifier ih =>
      by_cases hbare : ∃ y, t = .name y
      · obtain ⟨y, rfl⟩ := hbare
        cases ht
        exact .inr ⟨y, member, rfl, hqualifier y rfl, by simp [Tree.mentions]⟩
      · refine ih.mono ?_
        rw [Tree.mentions_selector fun y hy => hbare ⟨y, hy⟩]
        exact List.Subset.refl _
  | fieldType _ ih => exact ih.mono (by rw [Tree.mentions]; exact List.Subset.refl _)
  | @key k v s _ hbare ih =>
      refine ih.mono ?_
      rw [Tree.mentions_keyed hbare]
      exact List.subset_append_left _ _
  | @keyedValue k v s _ ih =>
      refine ih.mono ?_
      cases k <;> simp [Tree.mentions]
  | target _ hcounts => exact hcounts.elim
  | definedValue hmem _ ih =>
      exact ih.mono (by rw [Tree.mentions]; exact Tree.mentions_subset_mentionsAll hmem)
  | rangeTarget _ hcounts => exact hcounts.elim
  | rangeOperand _ ih => exact ih.mono (by rw [Tree.mentions]; exact List.subset_append_left _ _)
  | rangeBody _ ih => exact ih.mono (by rw [Tree.mentions]; exact List.subset_append_right _ _)
  | declaredType hmem _ ih =>
      refine ih.mono ?_
      rw [Tree.mentions]
      exact List.subset_append_of_subset_left _ (Tree.mentions_subset_mentionsAll hmem)
  | declaredValue hmem _ ih =>
      refine ih.mono ?_
      rw [Tree.mentions]
      exact List.subset_append_of_subset_right _ (Tree.mentions_subset_mentionsAll hmem)
  | typeParameter hmem _ ih =>
      refine ih.mono ?_
      rw [Tree.mentions]
      exact List.subset_append_of_subset_left _ (Tree.mentions_subset_mentionsAll hmem)
  | typeDefinition _ ih =>
      exact ih.mono (by rw [Tree.mentions]; exact List.subset_append_right _ _)
  | labeled _ ih => exact ih.mono (by rw [Tree.mentions]; exact List.Subset.refl _)
  | part hmem _ ih =>
      exact ih.mono (by rw [Tree.mentions]; exact Tree.mentions_subset_mentionsAll hmem)

end Walk

/-- What an identifier in the code of a package refers to: itself for a
predeclared type, nothing for a predeclared value or a blank, and else a name of
the package. -/
inductive Denotes (p x : String) : String → Prop
  | type (htype : Name.isPredeclaredType x = true) : Denotes p x x
  | own (hblank : x ≠ "_") (hfree : Name.isPredeclared x = false) : Denotes p x (p ++ "." ++ x)

/-- A file imports a path under a name. Of several imports of that name the last
one counts. -/
def File.ImportsAs (file : File) (name path : String) : Prop :=
  ∃ before i after, file.imports = before ++ i :: after ∧ Scope.localName? i = some name ∧
    i.path = path ∧ ∀ later ∈ after, Scope.localName? later ≠ some name

/-- A word that starts with neither a star nor a dot. -/
def Unmarked (word : List Char) : Prop :=
  ∃ c cs, word = c :: cs ∧ c ≠ '*' ∧ c ≠ '.'

def HasSlash (word : List Char) : Prop :=
  '/' ∈ word ∨ '\\' ∈ word

/-- What a type name in a comment refers to. Stars and dots before it do not
matter, a path stands for itself, a qualified name is that of an import if there
is one, and any other name is an identifier of the package. -/
inductive File.DocDenotes (file : File) (p : String) : List Char → String → Prop
  | mark {c : Char} {word : List Char} {n : String} (hc : c = '*' ∨ c = '.')
      (hword : DocDenotes file p word n) : DocDenotes file p (c :: word) n
  | path {word : List Char} (hword : Unmarked word) (hslash : HasSlash word) :
      DocDenotes file p word (String.ofList word)
  | imported {operand member : List Char} {path : String}
      (hword : Unmarked (operand ++ '.' :: member)) (hslash : ¬HasSlash (operand ++ '.' :: member))
      (hdot : '.' ∉ operand) (himport : file.ImportsAs (String.ofList operand) path) :
      DocDenotes file p (operand ++ '.' :: member) (path ++ "." ++ String.ofList member)
  | qualified {operand member : List Char}
      (hword : Unmarked (operand ++ '.' :: member)) (hslash : ¬HasSlash (operand ++ '.' :: member))
      (hdot : '.' ∉ operand) (himport : ¬file.Imports (String.ofList operand)) :
      DocDenotes file p (operand ++ '.' :: member) (String.ofList (operand ++ '.' :: member))
  | bare {word : List Char} {n : String} (hword : Unmarked word) (hslash : ¬HasSlash word)
      (hdot : '.' ∉ word) (hn : Denotes p (String.ofList word) n) : DocDenotes file p word n

section Resolving

variable {file : File} {p x n : String}

theorem Scope.resolveName?_eq_some_iff {s : Scope} :
    s.resolveName? x = some n ↔ Denotes s.package x n := by
  have hblank : Name.isPredeclaredType "_" = false := by decide
  unfold Scope.resolveName?
  constructor
  · intro h
    split_ifs at h with hx htype hfree
    · cases h
      exact .type htype
    · cases h
      exact .own hx (by simpa using hfree)
  · rintro (htype | ⟨hx, hfree⟩)
    · have hx : x ≠ "_" := by
        rintro rfl
        rw [hblank] at htype
        cases htype
      rw [if_neg hx, if_pos htype]
    · have htype : Name.isPredeclaredType x = false := (Bool.or_eq_false_iff.mp hfree).1
      simp [hx, htype, hfree]
      rfl

theorem Scope.import?_eq_find? :
    (Scope.ofFile p file).import? x =
      (file.imports.reverse.find? fun i => Scope.localName? i == some x).map (·.path) := by
  have hnamed : ∀ i : Import, ((Scope.localName? i).map fun name => (name, i.path)).any
      (fun entry => entry.1 == x) = (Scope.localName? i == some x) := by
    intro i
    cases Scope.localName? i <;> simp
  rw [Scope.import?, Scope.ofFile, ← List.filterMap_reverse, List.find?_filterMap]
  simp only [hnamed]
  cases hfind : file.imports.reverse.find? fun i => Scope.localName? i == some x with
  | none => rfl
  | some i =>
      have hname : Scope.localName? i = some x := by simpa using List.find?_some hfind
      simp [hname]

theorem Scope.import?_eq_some_iff {path : String} :
    (Scope.ofFile p file).import? x = some path ↔ file.ImportsAs x path := by
  rw [Scope.import?_eq_find?, Option.map_eq_some_iff]
  constructor
  · rintro ⟨i, hi, hpath⟩
    obtain ⟨hname, before, after, hsplit, hnone⟩ := List.find?_eq_some_iff_append.mp hi
    refine ⟨after.reverse, i, before.reverse, ?_, by simpa using hname, hpath, ?_⟩
    · rw [← List.reverse_reverse file.imports, hsplit]
      simp
    · intro later hlater
      simpa using hnone later (List.mem_reverse.mp hlater)
  · rintro ⟨before, i, after, hsplit, hname, hpath, hlater⟩
    refine ⟨i, List.find?_eq_some_iff_append.mpr ⟨by simpa using hname, after.reverse,
      before.reverse, by rw [hsplit]; simp, ?_⟩, hpath⟩
    intro later hmem
    simpa using hlater later (List.mem_reverse.mp hmem)

theorem Scope.import?_eq_none_iff :
    (Scope.ofFile p file).import? x = none ↔ ¬file.Imports x := by
  rw [Scope.import?_eq_find?, Option.map_eq_none_iff, List.find?_eq_none]
  simp [File.Imports]

theorem File.docDenotes_dropWhile {word : List Char} :
    file.DocDenotes p (word.dropWhile fun c => c == '*' || c == '.') n ↔
      file.DocDenotes p word n := by
  induction word with
  | nil => rfl
  | cons c word ih =>
      by_cases hc : c = '*' ∨ c = '.'
      · rw [List.dropWhile_cons_of_pos (by simpa using hc), ih]
        refine ⟨.mark hc, ?_⟩
        generalize hmarked : c :: word = marked
        have hnot : ¬Unmarked marked := by
          rintro ⟨d, ds, hd, hstar, hdot⟩
          obtain ⟨rfl, -⟩ := List.cons.inj (hmarked.trans hd)
          exact hc.elim hstar hdot
        intro h
        cases h with
        | mark _ hword => exact (List.cons.inj hmarked).2 ▸ hword
        | path hword => exact absurd hword hnot
        | imported hword => exact absurd hword hnot
        | qualified hword => exact absurd hword hnot
        | bare hword => exact absurd hword hnot
      · rw [List.dropWhile_cons_of_neg (by simpa using hc)]

theorem unmarked_dropWhile {word : List Char}
    (hne : word.dropWhile (fun c => c == '*' || c == '.') ≠ []) :
    Unmarked (word.dropWhile fun c => c == '*' || c == '.') := by
  obtain ⟨c, cs, hcs⟩ := List.exists_cons_of_ne_nil hne
  have hhead := List.head?_dropWhile_not (fun c : Char => c == '*' || c == '.') word
  rw [hcs, List.head?_cons] at hhead
  exact ⟨c, cs, hcs, by simpa using hhead⟩

theorem any_slash_iff {word : List Char} :
    (word.any fun c => c == '/' || c == '\\') = true ↔ HasSlash word := by
  simp only [List.any_eq_true, Bool.or_eq_true, beq_iff_eq, HasSlash]
  constructor
  · rintro ⟨c, hc, rfl | rfl⟩
    · exact .inl hc
    · exact .inr hc
  · rintro (h | h)
    · exact ⟨_, h, .inl rfl⟩
    · exact ⟨_, h, .inr rfl⟩

theorem File.DocDenotes.ne_nil {word : List Char} (h : file.DocDenotes p word n) : word ≠ [] := by
  have hunmarked : ∀ {word}, Unmarked word → word ≠ [] := by
    rintro _ ⟨c, cs, rfl, -⟩
    exact List.cons_ne_nil c cs
  cases h with
  | mark => exact List.cons_ne_nil _ _
  | path hword => exact hunmarked hword
  | imported hword => exact hunmarked hword
  | qualified hword => exact hunmarked hword
  | bare hword => exact hunmarked hword

theorem Scope.resolveDocName?_eq_some_iff {word : String} :
    (Scope.ofFile p file).resolveDocName? word = some n ↔
      file.DocDenotes p word.toList n := by
  rw [← File.docDenotes_dropWhile]
  have hunmarked := @unmarked_dropWhile word.toList
  unfold Scope.resolveDocName?
  generalize word.toList.dropWhile (fun c => c == '*' || c == '.') = name at hunmarked
  simp only [List.isEmpty_iff]
  constructor
  · intro h
    split_ifs at h with hempty hslash
    · cases h
      exact .path (hunmarked hempty) (any_slash_iff.mp hslash)
    · rw [any_slash_iff] at hslash
      split at h
      · rename_i operand member hcut
        obtain ⟨rfl, hdot⟩ := Text.cut?_eq_some_iff.mp hcut
        split at h
        · rename_i path himport
          cases h
          exact .imported (hunmarked hempty) hslash hdot (Scope.import?_eq_some_iff.mp himport)
        · rename_i himport
          cases h
          exact .qualified (hunmarked hempty) hslash hdot (Scope.import?_eq_none_iff.mp himport)
      · rename_i hcut
        exact .bare (hunmarked hempty) hslash (Text.cut?_eq_none_iff.mp hcut)
          (Scope.resolveName?_eq_some_iff.mp h)
  · intro h
    rw [if_neg h.ne_nil]
    cases h with
    | mark hc =>
        obtain ⟨d, ds, hd, hstar, hdot⟩ := hunmarked (List.cons_ne_nil _ _)
        obtain ⟨rfl, -⟩ := List.cons.inj hd
        exact absurd hc (by simp [hstar, hdot])
    | path _ hslash => rw [if_pos (any_slash_iff.mpr hslash)]
    | imported _ hslash hdot himport =>
        rw [if_neg (any_slash_iff.not.mpr hslash), Text.cut?_eq_some_iff.mpr ⟨rfl, hdot⟩]
        simp only [Scope.import?_eq_some_iff.mpr himport]
    | qualified _ hslash hdot himport =>
        rw [if_neg (any_slash_iff.not.mpr hslash), Text.cut?_eq_some_iff.mpr ⟨rfl, hdot⟩]
        simp only [Scope.import?_eq_none_iff.mpr himport]
    | bare _ hslash hdot hn =>
        rw [if_neg (any_slash_iff.not.mpr hslash), Text.cut?_eq_none_iff.mpr hdot]
        exact Scope.resolveName?_eq_some_iff.mpr hn

theorem Denotes.ne_empty (h : Denotes p x n) : n ≠ "" := by
  cases h with
  | type htype =>
      rintro rfl
      exact absurd htype (by decide)
  | own => simp

theorem File.DocDenotes.ne_empty {word : List Char} (h : file.DocDenotes p word n) : n ≠ "" := by
  induction h with
  | mark _ _ ih => exact ih
  | path hword => 
      obtain ⟨c, cs, rfl, -⟩ := hword
      simp
  | imported => simp
  | qualified => simp
  | bare _ _ _ hn => exact hn.ne_empty

end Resolving

namespace Declaration

/-- The texts of the comments of a declaration. -/
def doc : Declaration → List String
  | .type _ _ _ doc => doc
  | .values _ _ _ _ doc => doc
  | .function _ _ _ _ doc => doc

/-- A tree is read somewhere in the code of a declaration. -/
def Reads (file : File) (counts : Tree → Prop) (d : Declaration) (s : Tree) : Prop :=
  ∃ t ∈ d.code, t.Reads file counts s

/-- The names that a declaration refers to: what the identifiers and the members
of imports denote that are read in its code, and what the type names in its
comments denote. -/
inductive RefersTo (file : File) (counts : Tree → Prop) (p : String) (tags : List DocTag)
    (d : Declaration) : String → Prop
  | identifier {x n : String} (hx : d.Reads file counts (.name x)) (hn : Denotes p x n) :
      RefersTo file counts p tags d n
  | imported {q member path : String} (hq : d.Reads file counts (.selector (.name q) member))
      (himport : file.ImportsAs q path) :
      RefersTo file counts p tags d (path ++ "." ++ member)
  | comment {word n : String} (hword : word ∈ DocTag.union tags (docText d.doc))
      (hn : file.DocDenotes p word.toList n) : RefersTo file counts p tags d n

section References

variable {file : File} {d : Declaration} {p n : String} {tags : List DocTag}

theorem reads_of_mem_mentionsAll {m : Mention} (counts : Tree → Prop)
    (hm : m ∈ Tree.mentionsAll d.code) : d.Reads file counts m.tree := by
  obtain ⟨t, ht, hmention⟩ := Tree.mem_mentionsAll.mp hm
  exact ⟨t, ht, t.reads_of_mem_mentions file counts m hmention⟩

theorem mem_filterMap_resolve?_iff :
    n ∈ (Tree.mentionsAll d.code).filterMap (Scope.ofFile p file).resolve? ↔
      (∃ x, d.Reads file (fun _ => False) (.name x) ∧ Denotes p x n) ∨
        ∃ q member path, d.Reads file (fun _ => False) (.selector (.name q) member) ∧
          file.ImportsAs q path ∧ n = path ++ "." ++ member := by
  rw [List.mem_filterMap]
  constructor
  · rintro ⟨m, hm, hresolve⟩
    have hreads : d.Reads file (fun _ => False) m.tree := d.reads_of_mem_mentionsAll _ hm
    cases m with
    | name x => exact .inl ⟨x, hreads, Scope.resolveName?_eq_some_iff.mp hresolve⟩
    | member q member =>
        rw [Scope.resolve?] at hresolve
        split at hresolve
        · rename_i path himport
          cases hresolve
          exact .inr ⟨q, member, path, hreads, Scope.import?_eq_some_iff.mp himport, rfl⟩
        · -- the operand is no import, so it is read itself
          rename_i himport
          obtain ⟨t, ht, hselector⟩ := hreads
          have hoperand : t.Reads file (fun _ => False) (.name q) := by
            refine hselector.trans (.operand .self ?_)
            rintro y hy
            cases hy
            exact Scope.import?_eq_none_iff.mp himport
          exact .inl ⟨q, ⟨t, ht, hoperand⟩, Scope.resolveName?_eq_some_iff.mp hresolve⟩
  · rintro (⟨x, ⟨t, ht, hreads⟩, hn⟩ | ⟨q, member, path, ⟨t, ht, hreads⟩, himport, rfl⟩)
    · have hresolve := Scope.resolveName?_eq_some_iff (s := .ofFile p file).mpr hn
      rcases hreads.isFoundIn with hall | ⟨q, member, hq, himports, hmem⟩
      · have hmem : Mention.name x ∈ t.mentions := hall (by simp [Tree.mentions])
        exact ⟨_, Tree.mem_mentionsAll.mpr ⟨t, ht, hmem⟩, hresolve⟩
      · cases hq
        refine ⟨_, Tree.mem_mentionsAll.mpr ⟨t, ht, hmem⟩, ?_⟩
        simp only [Scope.resolve?, Scope.import?_eq_none himports, hresolve]
    · rcases hreads.isFoundIn with hall | ⟨_, _, hq, -⟩
      · have hmem : Mention.member q member ∈ t.mentions := hall (by simp [Tree.mentions])
        refine ⟨_, Tree.mem_mentionsAll.mpr ⟨t, ht, hmem⟩, ?_⟩
        simp only [Scope.resolve?, Scope.import?_eq_some_iff.mpr himport]
      · cases hq

theorem mem_references_iff :
    n ∈ (Scope.ofFile p file).references tags d.code d.doc ↔
      d.RefersTo file (fun _ => False) p tags n := by
  rw [Scope.references, Text.mem_distinct, List.mem_append, mem_filterMap_resolve?_iff,
    List.mem_filterMap]
  constructor
  · rintro ((⟨x, hx, hn⟩ | ⟨q, member, path, hq, himport, rfl⟩) | ⟨word, hword, hn⟩)
    · exact .identifier hx hn
    · exact .imported hq himport
    · exact .comment hword (Scope.resolveDocName?_eq_some_iff.mp hn)
  · rintro (⟨hx, hn⟩ | ⟨hq, himport⟩ | ⟨hword, hn⟩)
    · exact .inl (.inl ⟨_, hx, hn⟩)
    · exact .inl (.inr ⟨_, _, _, hq, himport, rfl⟩)
    · exact .inr ⟨_, hword, Scope.resolveDocName?_eq_some_iff.mpr hn⟩

theorem RefersTo.ne_empty {counts : Tree → Prop} (h : d.RefersTo file counts p tags n) :
    n ≠ "" := by
  cases h with
  | identifier _ hn => exact hn.ne_empty
  | imported => simp
  | comment _ hn => exact hn.ne_empty

theorem references_of_mem_units {s : Scope} {path : String} {spec : UnitSpec}
    (hspec : spec ∈ d.units s tags path) : spec.references = s.references tags d.code d.doc := by
  cases d with
  | type name parameters t doc =>
      obtain rfl := List.mem_singleton.mp hspec
      rfl
  | values isConstant names ts vs doc =>
      obtain ⟨name, -, rfl⟩ := List.mem_map.mp hspec
      rfl
  | function receiver name signature body doc =>
      cases receiver with
      | nil =>
          obtain rfl := List.mem_singleton.mp hspec
          rfl
      | cons field receivers =>
          obtain ⟨owner, -, rfl⟩ := Option.map_eq_some_iff.mp (Option.mem_toList.mp hspec)
          rfl

end References

end Declaration

/-- The references of scanned units. All units of one declaration have the same
ones, without repetitions and blanks: the names that the declaration refers to,
where the left sides of short declarations are not read. -/
theorem unitsOfBytes?_references {tags : List DocTag} {path p : String} {bytes : ByteArray}
    {units : List UnitSpec} (h : unitsOfBytes? tags path p bytes = some units) :
    ∃ file, (Text.ofBytes? bytes).bind File.ofText? = some file ∧
      units = file.declarations.flatMap (Declaration.units (.ofFile p file) tags path) ∧
      ∀ d ∈ file.declarations, ∃ references : List String, references.Nodup ∧ "" ∉ references ∧
        (∀ n, n ∈ references ↔ d.RefersTo file (fun _ => False) p tags n) ∧
        (∀ spec ∈ d.units (.ofFile p file) tags path, spec.references = references) ∧
        ∀ owner, d.ContributesTo owner →
          ∃ spec ∈ d.units (.ofFile p file) tags path, spec.name = p ++ "." ++ owner := by
  rw [unitsOfBytes?_eq] at h
  obtain ⟨file, hfile, rfl⟩ := Option.map_eq_some_iff.mp h
  refine ⟨file, hfile, rfl, ?_⟩
  intro d _
  refine ⟨(Scope.ofFile p file).references tags d.code d.doc, Text.nodup_distinct _, ?_,
    fun n => Declaration.mem_references_iff, fun spec hspec => d.references_of_mem_units hspec, ?_⟩
  · intro hempty
    exact (Declaration.mem_references_iff.mp hempty).ne_empty rfl
  · intro owner howner
    obtain ⟨spec, hspec, -, hname, -⟩ := howner.exists_unit (.ofFile p file) tags path
    exact ⟨spec, hspec, hname⟩

/-- A short declaration with an element on its left, in a file with two imports
of one name. -/
def elementText : String :=
  "package m\nimport \"a/x\"\nimport \"b/x\"\nfunc F() \x7b\n\tv[i] := x.Run\n\x7d\n"

def isElementFile : File → Bool
  | ⟨[⟨none, "a/x"⟩, ⟨none, "b/x"⟩],
      [.function [] "F" [] (some (.node .statement
        [.define [.node .index [.name "v", .name "i"]] [.selector (.name "x") "Run"]])) [""]]⟩ =>
      true
  | _ => false

theorem element_parse :
    ∃ file, File.ofText? elementText = some file ∧ isElementFile file = true := by
  have hparse : (File.ofText? elementText).any isElementFile = true := by decide +kernel
  exact (Option.any_eq_true _ _).mp hparse

theorem unitsOfBytes?_references_element :
    ∃ units, unitsOfBytes? [] "m.go" "app/m" (Text.toBytes elementText) = some units ∧
      ∃ spec ∈ units, spec.name = "app/m.F" ∧ spec.references.Nodup ∧
        "b/x.Run" ∈ spec.references := by
  obtain ⟨file, hfile, hshape⟩ := element_parse
  have hunits : unitsOfBytes? [] "m.go" "app/m" (Text.toBytes elementText) =
      some (file.units [] "m.go" "app/m") := by
    rw [unitsOfBytes?_eq, Text.ofBytes?_toBytes, Option.bind_some, hfile, Option.map_some]
  obtain ⟨file', hfile', hall, hdeclarations⟩ := unitsOfBytes?_references hunits
  rw [Text.ofBytes?_toBytes, Option.bind_some, hfile] at hfile'
  cases hfile'
  refine ⟨_, hunits, ?_⟩
  unfold isElementFile at hshape
  split at hshape
  · obtain ⟨references, hnodup, -, hrefers, hsame, hspecs⟩ := hdeclarations _ (.head _)
    obtain ⟨spec, hspec, hname⟩ := hspecs "F" .function
    refine ⟨spec, hall ▸ List.mem_flatMap.mpr ⟨_, .head _, hspec⟩, hname, ?_, ?_⟩
    · rwa [hsame spec hspec]
    · rw [hsame spec hspec, hrefers]
      refine @Declaration.RefersTo.imported _ _ _ _ _ "x" "Run" "b/x" ⟨_, .head _, ?_⟩ ?_
      · exact .part (.head _) (.definedValue (.head _) .self)
      · exact ⟨[_], _, [], rfl, by decide, rfl, by simp⟩
  · cases hshape

/-- The element is no name that the declaration introduces, and both imports have
the name. Yet neither the parts of the element nor the first import count. -/
theorem units_skip_element :
    ∃ file d, File.ofText? elementText = some file ∧ d ∈ file.declarations ∧
      d.RefersTo file (fun t => ∀ y, t ≠ .name y) "app/m" [] "app/m.v" ∧
      d.Reads file (fun t => ∀ y, t ≠ .name y) (.selector (.name "x") "Run") ∧
      (∃ i ∈ file.imports, Scope.localName? i = some "x" ∧ i.path = "a/x") ∧
      (d.units (.ofFile "app/m" file) [] "m.go").map (·.references) = [["b/x.Run"]] := by
  obtain ⟨file, hfile, hshape⟩ := element_parse
  unfold isElementFile at hshape
  split at hshape
  · refine ⟨_, _, hfile, .head _, .identifier (x := "v") ⟨_, .head _, ?_⟩ ?_, ⟨_, .head _, ?_⟩,
      ⟨_, .head _, by decide, rfl⟩, ?_⟩
    · exact .part (.head _) (.target (.head _) (by simp) (.part (.head _) .self))
    · exact .own (by decide) (by decide)
    · exact .part (.head _) (.definedValue (.head _) .self)
    · have himport : Scope.localName? ⟨none, "a/x"⟩ = some "x" ∧
          Scope.localName? ⟨none, "b/x"⟩ = some "x" := by
        decide
      simp [Declaration.units, Scope.unit, Scope.references, Scope.ofFile, Scope.resolve?,
        Scope.import?, DocTag.union, DocTag.merge_nil, Tree.mentionsAll, Tree.mentions,
        Text.distinct, himport]
  · cases hshape

end Source

end ArchLint
