import ArchLint.Proofs.Instants
import Mathlib.Data.List.Forall2

namespace ArchLint

open Number (Binary64)

namespace Yaml

mutual

/-- Whether two nodes hold the same data. Scalars may differ in their style, as
long as text and value are the same. -/
def Node.agrees : Node → Node → Bool
  | .scalar s, .scalar t => s.tag == t.tag && s.text == t.text && s.value? == t.value?
  | .sequence xs, .sequence ys => itemsAgree xs ys
  | .mapping es, .mapping fs => entriesAgree es fs
  | _, _ => false

/-- Whether items hold the same data. -/
def itemsAgree : List Node → List Node → Bool
  | [], [] => true
  | x :: xs, y :: ys => x.agrees y && itemsAgree xs ys
  | _, _ => false

/-- Whether entries hold the same data. -/
def entriesAgree : List (Node × Node) → List (Node × Node) → Bool
  | [], [] => true
  | (k, v) :: es, (l, w) :: fs => k.agrees l && v.agrees w && entriesAgree es fs
  | _, _ => false

end

section Agreeing

variable {n : Node} {s : Scalar}

theorem exists_scalar_of_agrees (h : (Node.scalar s).agrees n = true) :
    ∃ t, n = .scalar t ∧ t.tag = s.tag ∧ t.text = s.text ∧ t.value? = s.value? := by
  cases n with
  | scalar t =>
      simp only [Node.agrees, Bool.and_eq_true, beq_iff_eq] at h
      exact ⟨t, rfl, h.1.1.symm, h.1.2.symm, h.2.symm⟩
  | _ => simp [Node.agrees] at h

theorem exists_sequence_of_agrees {xs : List Node} (h : (Node.sequence xs).agrees n = true) :
    ∃ ys, n = .sequence ys ∧ List.Forall₂ (fun x y => x.agrees y = true) xs ys := by
  cases n with
  | sequence ys =>
      rw [Node.agrees] at h
      refine ⟨ys, rfl, ?_⟩
      induction xs generalizing ys with
      | nil => cases ys <;> simp [itemsAgree] at h ⊢
      | cons x xs ih =>
          cases ys with
          | nil => simp [itemsAgree] at h
          | cons y ys =>
              rw [itemsAgree, Bool.and_eq_true] at h
              exact .cons h.1 (ih ys h.2)
  | _ => simp [Node.agrees] at h

theorem exists_mapping_of_agrees {es : List (Node × Node)}
    (h : (Node.mapping es).agrees n = true) :
    ∃ fs, n = .mapping fs ∧ List.Forall₂
      (fun e f => e.1.agrees f.1 = true ∧ e.2.agrees f.2 = true) es fs := by
  cases n with
  | mapping fs =>
      rw [Node.agrees] at h
      refine ⟨fs, rfl, ?_⟩
      induction es generalizing fs with
      | nil => cases fs <;> simp [entriesAgree] at h ⊢
      | cons e es ih =>
          cases fs with
          | nil => simp [entriesAgree] at h
          | cons f fs =>
              rw [entriesAgree, Bool.and_eq_true, Bool.and_eq_true] at h
              exact .cons h.1 (ih fs h.2)
  | _ => simp [Node.agrees] at h

theorem updateScalar_of_agrees {α : Type} {read : Scalar → Value → Option α}
    (hread : ∀ t, t.string? = s.string? → read t = read s)
    (h : (Node.scalar s).agrees n = true) (old : α) :
    updateScalar read old n = updateScalar read old (.scalar s) := by
  obtain ⟨t, rfl, htag, htext, hvalue⟩ := exists_scalar_of_agrees h
  have hstring : t.string? = s.string? := by rw [Scalar.string?, Scalar.string?, htag, htext, hvalue]
  simp only [updateScalar, Node.target?, hvalue, hread t hstring]

theorem isNull_of_agrees (h : (Node.scalar s).agrees n = true) :
    n.isNull = (Node.scalar s).isNull := by
  obtain ⟨t, rfl, -, -, hvalue⟩ := exists_scalar_of_agrees h
  simp only [Node.isNull, Node.target?, hvalue]

theorem updateString_of_agrees {text : String} (h : (Node.ofText text).agrees n = true)
    (old : String) : n.isNull = false ∧ updateString old n = some text := by
  rw [Node.ofText] at h
  rw [isNull_of_agrees h, updateString, updateScalar_of_agrees (fun t ht => by rw [ht]) h]
  simp [Node.isNull, updateScalar, Node.target?, Scalar.value?, Scalar.string?]

theorem updateBool_of_agrees {b : Bool} (h : (Node.ofBool b).agrees n = true) (old : Bool) :
    updateBool old n = some b := by
  rw [Node.ofBool, Node.ofWord] at h
  rw [updateBool, updateScalar_of_agrees (fun t ht => rfl) h]
  cases b <;> rfl

theorem updateInt_of_agrees {k : Int} (hk : Number.isInt64 k = true)
    (h : (Node.ofInt k).agrees n = true) (old : Int) : updateInt old n = some k := by
  rw [Node.ofInt, Node.ofWord] at h
  rw [updateInt, updateScalar_of_agrees (fun t ht => rfl) h]
  exact updateInt_ofInt hk old

theorem updateFloat_of_agrees {x : Binary64} (hx : updateFloat .zero (.ofBinary64 x) = some x)
    (h : (Node.ofBinary64 x).agrees n = true) : updateFloat .zero n = some x := by
  rw [Node.ofBinary64, Node.ofWord] at h
  rw [updateFloat, updateScalar_of_agrees (fun t ht => rfl) h]
  exact hx

theorem isNull_ofBinary64 {x : Binary64} (hx : updateFloat .zero (.ofBinary64 x) = some x) :
    (Node.ofBinary64 x).isNull = false := by
  rw [← Bool.not_eq_true]
  intro hnull
  have hvalue : valueOf true (numberFormat.write x) = .null := by
    simpa [Node.ofBinary64, Node.ofWord, Node.isNull, Node.target?, Scalar.value?] using hnull
  have hzero : x = .zero := by
    simpa [Node.ofBinary64, Node.ofWord, updateFloat, updateScalar, Node.target?, Scalar.value?,
      hvalue] using hx.symm
  rw [hzero] at hvalue
  exact absurd hvalue (by decide)

theorem updateFloat?_of_agrees {x : Binary64} (hx : updateFloat .zero (.ofBinary64 x) = some x)
    (h : (Node.ofBinary64 x).agrees n = true) (old : Option Binary64) :
    updateFloat? old n = some (some x) := by
  rw [updateFloat?, isNull_of_agrees h, ← Node.ofWord, ← Node.ofBinary64, isNull_ofBinary64 hx,
    if_neg Bool.false_ne_true, updateFloat_of_agrees hx h]
  rfl

theorem updateTime_of_agrees {t : Timestamp} (ht : t.IsUniversal)
    (h : (Node.ofWord t.text).agrees n = true) (old : Timestamp) : updateTime old n = some t := by
  rw [← updateTime_text ht old]
  rw [Node.ofWord] at h ⊢
  obtain ⟨s, rfl, -⟩ := exists_scalar_of_agrees h
  simp only [updateTime, Node.target?]
  refine updateScalar_of_agrees (fun u hu => ?_) h old
  funext value
  rw [hu]

end Agreeing

theorem isNull_of_agrees_entries {es : List (String × Node)} {n : Node}
    (h : (Node.ofEntries es).agrees n = true) : n.isNull = false := by
  obtain ⟨fs, rfl, -⟩ := exists_mapping_of_agrees h
  rfl

section Lists

variable {α β : Type} {n : Node} {item : Node → Option β} {encode : α → Node} {xs : List α}
  {ys : List Node}

theorem mapM_of_agrees {f : α → β}
    (hitem : ∀ x ∈ xs, ∀ y, (encode x).agrees y = true → item y = some (f x))
    (hys : List.Forall₂ (fun x y => (encode x).agrees y = true) xs ys) :
    ys.mapM item = some (xs.map f) := by
  induction hys with
  | nil => rfl
  | cons hy _ ih =>
      obtain ⟨hx, hxs⟩ := List.forall_mem_cons.mp hitem
      simp [List.mapM_cons, hx _ hy, ih hxs]

theorem filter_isNull_of_agrees
    (hitem : ∀ x ∈ xs, ∀ y, (encode x).agrees y = true → y.isNull = false)
    (hys : List.Forall₂ (fun x y => (encode x).agrees y = true) xs ys) :
    ys.filter (fun y => !y.isNull) = ys := by
  induction hys with
  | nil => rfl
  | cons hy _ ih =>
      obtain ⟨hx, hxs⟩ := List.forall_mem_cons.mp hitem
      simp [hx _ hy, ih hxs]

theorem updateList?_of_agrees {f : α → β}
    (hnull : ∀ x ∈ xs, ∀ n, (encode x).agrees n = true → n.isNull = false)
    (hitem : ∀ x ∈ xs, ∀ n, (encode x).agrees n = true → item n = some (f x))
    (h : (Node.sequence (xs.map encode)).agrees n = true) (old : Option (List β)) :
    updateList? item old n = some (some (xs.map f)) := by
  obtain ⟨ys, rfl, hys⟩ := exists_sequence_of_agrees h
  rw [List.forall₂_map_left_iff] at hys
  simp only [updateList?, Node.target?, filter_isNull_of_agrees hnull hys,
    mapM_of_agrees hitem hys, Option.map_some]

theorem updateRecords?_of_agrees {xs : List α} {f : α → β} {entries : α → List (String × Node)}
    (hencode : ∀ x, encode x = .ofEntries (entries x))
    (hitem : ∀ x ∈ xs, ∀ n, (encode x).agrees n = true → item n = some (f x))
    (h : (Node.sequence (xs.map encode)).agrees n = true) (old : Option (List β)) :
    updateList? item old n = some (some (xs.map f)) :=
  updateList?_of_agrees (fun x _ _ hn => isNull_of_agrees_entries (hencode x ▸ hn)) hitem h old

theorem updateStrings?_of_agrees {xs : List String} (h : (Node.ofTexts xs).agrees n = true)
    (old : Option (List String)) : updateList? (updateString "") old n = some (some xs) := by
  have hitem : ∀ x ∈ xs, ∀ n, (Node.ofText x).agrees n = true →
      n.isNull = false ∧ updateString "" n = some x :=
    fun x _ n hn => updateString_of_agrees hn ""
  have hread := updateList?_of_agrees (f := id) (fun x hx n hn => (hitem x hx n hn).1)
    (fun x hx n hn => (hitem x hx n hn).2) h old
  rwa [List.map_id] at hread

theorem updateStrings_of_agrees {xs : List String} (h : (Node.ofTexts xs).agrees n = true)
    (old : List String) : updateStrings old n = some xs := by
  rw [updateStrings, updateList, updateStrings?_of_agrees h]
  rfl

theorem updateLists_of_agrees {xss : List (Option (List String))}
    (h : (Node.sequence (xss.map fun xs => Node.ofTexts (xs.getD []))).agrees n = true)
    (old : List (Option (List String))) :
    updateLists (updateString "") old n = some (xss.map fun xs => some (xs.getD [])) := by
  obtain ⟨ys, rfl, hys⟩ := exists_sequence_of_agrees h
  rw [List.forall₂_map_left_iff] at hys
  simp only [updateLists, Node.target?]
  exact mapM_of_agrees (fun xs _ n hn => updateStrings?_of_agrees hn none) hys

end Lists

section Fields

variable {α β : Type} {fields : List (String × Update α)} {a b c : α} {n : Node}

def setField (fields : List (String × Update α)) (a : α) (e : String × Node) : Option α :=
  match fields.lookup e.1 with
  | some update => update a e.2
  | none => some a

/-- Entries that agree with some set fields. -/
def Sets (fields : List (String × Update α)) (a : α) (es : List (String × Node)) (b : α) : Prop :=
  ∀ fs, List.Forall₂ (fun e f => f.1 = e.1 ∧ e.2.agrees f.2 = true) es fs →
    fs.foldlM (setField fields) a = some b

theorem Sets.append {es es' : List (String × Node)} (h : Sets fields a es b)
    (h' : Sets fields b es' c) : Sets fields a (es ++ es') c := by
  intro fs hfs
  have hfront := List.forall₂_take es.length hfs
  have hback := List.forall₂_drop es.length hfs
  rw [List.take_left] at hfront
  rw [List.drop_left] at hback
  rw [← List.take_append_drop es.length fs, List.foldlM_append, h _ hfront]
  exact h' _ hback

theorem sets_nil : Sets fields a [] a := by
  intro fs hfs
  cases hfs
  rfl

theorem sets_cons {name : String} {value : Node} {es : List (String × Node)} {update : Update α}
    (hlookup : fields.lookup name = some update)
    (hread : ∀ n, value.agrees n = true → update a n = some b) (hes : Sets fields b es c) :
    Sets fields a ((name, value) :: es) c := by
  intro fs hfs
  obtain ⟨f, rest, ⟨hname, hagrees⟩, hrest, rfl⟩ := List.forall₂_cons_left_iff.mp hfs
  rw [List.foldlM_cons, setField, hname, hlookup]
  simp only [hread f.2 hagrees]
  exact hes rest hrest

theorem sets_listEntry {name : String} {encode : β → Node} {xs : List β} {update : Update α}
    (set : List β → α) (hempty : set [] = a) (hlookup : fields.lookup name = some update)
    (hread : ∀ n, (Node.sequence (xs.map encode)).agrees n = true → update a n = some (set xs)) :
    Sets fields a (listEntry name encode xs) (set xs) := by
  intro fs hfs
  cases xs with
  | nil =>
      cases hfs
      rw [hempty]
      rfl
  | cons x xs =>
      rw [listEntry, List.isEmpty_cons, if_neg Bool.false_ne_true] at hfs
      obtain ⟨f, fs, ⟨hname, hagrees⟩, hnil, rfl⟩ := List.forall₂_cons_left_iff.mp hfs
      cases hnil
      simp [setField, hname, hlookup, hread f.2 hagrees]

theorem names_listEntry (name : String) (encode : β → Node) (xs : List β) :
    ((listEntry name encode xs).map (·.1)).Sublist [name] := by
  cases xs <;> simp [listEntry]

/-- A plain text that is not taken for a value, and no mark of the format. -/
def isKey (name : String) : Bool :=
  valueOf true name == .text name && name != "<<"

theorem key_of_agrees {name : String} {key : Node} (hname : isKey name = true)
    (h : (Node.ofWord name).agrees key = true) :
    ∃ s, key = .scalar s ∧ s.text = name ∧ key.isMergeKey = false ∧ key.isNull = false ∧
      updateString "" key = some name := by
  rw [isKey, Bool.and_eq_true, beq_iff_eq, bne_iff_ne] at hname
  rw [Node.ofWord] at h
  obtain ⟨s, rfl, htag, htext, hvalue⟩ := exists_scalar_of_agrees h
  have htag : s.tag = none := htag
  have hvalue : s.value? = some (.text name) := by
    rw [hvalue]
    simp [Scalar.value?, hname.1]
  refine ⟨s, rfl, htext, ?_, ?_, ?_⟩
  · simp [Node.isMergeKey, htext, hname.2]
  · simp [Node.isNull, Node.target?, hvalue]
  · simp [updateString, updateScalar, Node.target?, hvalue, Scalar.string?, htag, htext]

section Entries

variable {es : List (String × Node)} {fs : List (Node × Node)}

theorem mappingsMergedInto_of_agrees (hkeys : ∀ e ∈ es, isKey e.1 = true)
    (h : List.Forall₂
      (fun e f => (Node.ofWord e.1).agrees f.1 = true ∧ e.2.agrees f.2 = true) es fs) :
    mappingsMergedInto fs = some [] := by
  induction h with
  | nil => rw [mappingsMergedInto]
  | cons hf _ ih =>
      obtain ⟨he, hes⟩ := List.forall_mem_cons.mp hkeys
      obtain ⟨-, -, -, hmerge, -⟩ := key_of_agrees he hf.1
      unfold mappingsMergedInto
      rw [hmerge, if_neg Bool.false_ne_true]
      exact ih hes

theorem exists_text_of_agrees (hkeys : ∀ e ∈ es, isKey e.1 = true)
    (h : List.Forall₂
      (fun e f => (Node.ofWord e.1).agrees f.1 = true ∧ e.2.agrees f.2 = true) es fs) :
    ∀ f ∈ fs, ∃ s, f.1 = .scalar s ∧ s.text ∈ es.map (·.1) := by
  induction h with
  | nil => simp
  | cons hf _ ih =>
      obtain ⟨he, hes⟩ := List.forall_mem_cons.mp hkeys
      obtain ⟨s, hs, htext, -⟩ := key_of_agrees he hf.1
      refine List.forall_mem_cons.mpr ⟨⟨s, hs, by simp [htext]⟩, fun g hg => ?_⟩
      obtain ⟨t, ht, hmem⟩ := ih hes g hg
      exact ⟨t, ht, List.mem_cons_of_mem _ hmem⟩

theorem keysDiffer_of_agrees (hkeys : ∀ e ∈ es, isKey e.1 = true)
    (hnodup : (es.map (·.1)).Nodup)
    (h : List.Forall₂
      (fun e f => (Node.ofWord e.1).agrees f.1 = true ∧ e.2.agrees f.2 = true) es fs) :
    keysDiffer fs = true := by
  induction h with
  | nil => rfl
  | @cons e f es fs hf hfs ih =>
      obtain ⟨he, hes⟩ := List.forall_mem_cons.mp hkeys
      obtain ⟨hnew, hnodup⟩ := List.nodup_cons.mp hnodup
      have hother : ∀ g ∈ fs, sameKey f.1 g.1 = false := by
        intro g hg
        obtain ⟨s, hs, htext, -⟩ := key_of_agrees he hf.1
        obtain ⟨t, ht, hmem⟩ := exists_text_of_agrees hes hfs g hg
        rw [hs, ht, sameKey, beq_eq_false_iff_ne, htext]
        intro hequal
        rw [← hequal] at hmem
        exact hnew hmem
      rw [keysDiffer, ih hes hnodup, Bool.and_true, Bool.not_eq_true', List.any_eq_false]
      simpa using hother

theorem namedEntries_of_agrees (hkeys : ∀ e ∈ es, isKey e.1 = true)
    (h : List.Forall₂
      (fun e f => (Node.ofWord e.1).agrees f.1 = true ∧ e.2.agrees f.2 = true) es fs) :
    ∃ named, namedEntries fs = some named ∧ named.map (·.1) = es.map (·.1) ∧
      List.Forall₂ (fun e f => f.1 = e.1 ∧ e.2.agrees f.2 = true) es named := by
  induction h with
  | nil => exact ⟨[], rfl, rfl, .nil⟩
  | @cons e f es fs hf _ ih =>
      obtain ⟨he, hes⟩ := List.forall_mem_cons.mp hkeys
      obtain ⟨-, -, -, hmerge, hnull, hname⟩ := key_of_agrees he hf.1
      obtain ⟨named, hnamed, hnames, hagree⟩ := ih hes
      refine ⟨(e.1, f.2) :: named, ?_, ?_, .cons ⟨rfl, hf.2⟩ hagree⟩
      · simp [namedEntries, hmerge, hnull, hname, hnamed]
      · simp [hnames]

end Entries

theorem updateFields_of_sets {es : List (String × Node)}
    (hnodup : (fields.map (·.1)).Nodup) (hkeys : ∀ f ∈ fields, isKey f.1 = true)
    (horder : (es.map (·.1)).Sublist (fields.map (·.1))) (h : Sets fields a es b)
    (hagrees : (Node.ofEntries es).agrees n = true) : updateFields fields a n = some b := by
  obtain ⟨fs, rfl, hfs⟩ := exists_mapping_of_agrees hagrees
  rw [List.forall₂_map_left_iff] at hfs
  have heskeys : ∀ e ∈ es, isKey e.1 = true := by
    intro e he
    obtain ⟨f, hf, hname⟩ := List.mem_map.mp (horder.subset (List.mem_map_of_mem he))
    rw [← hname]
    exact hkeys f hf
  have hesnodup : (es.map (·.1)).Nodup := horder.nodup hnodup
  obtain ⟨named, hnamed, hnames, hagree⟩ := namedEntries_of_agrees heskeys hfs
  have hknown : named.filter (fun e => fields.any (·.1 == e.1) && !([] : List String).elem e.1) =
      named := by
    rw [List.filter_eq_self]
    intro e he
    have hmem : e.1 ∈ fields.map (·.1) := by
      apply horder.subset
      rw [← hnames]
      exact List.mem_map_of_mem he
    obtain ⟨f, hf, hname⟩ := List.mem_map.mp hmem
    simpa using ⟨f.2, by rw [← hname]; exact hf⟩
  have hset := h named hagree
  have hentries : updateEntries fields [] a fs = some (b, named.map (·.1)) := by
    have hnamednodup : (named.map (·.1)).Nodup := hnames ▸ hesnodup
    simp only [updateEntries, keysDiffer_of_agrees heskeys hesnodup hfs, hnamed, hknown,
      hnamednodup, Option.bind_eq_bind, Option.bind_some]
    change (named.foldlM (setField fields) a).bind _ = _
    rw [hset]
    rfl
  simp [updateFields, Node.target?, mappingsMergedInto_of_agrees heskeys hfs, hentries]

end Fields

end Yaml

open Yaml

theorem Metrics.updateFields_of_agrees {m : Metrics} {n : Node}
    (hnumbers : ∀ x ∈ [m.abstractness, m.instability, m.distance, m.distanceOverage,
      m.primitiveness], updateFloat .zero (.ofBinary64 x) = some x)
    (h : m.toYaml.agrees n = true) : updateFields Metrics.yamlFields {} n = some m := by
  have hread : ∀ x ∈ [m.abstractness, m.instability, m.distance, m.distanceOverage,
      m.primitiveness], ∀ n, (Node.ofBinary64 x).agrees n = true → updateFloat .zero n = some x :=
    fun x hx n hn => updateFloat_of_agrees (hnumbers x hx) hn
  simp only [List.forall_mem_cons] at hread
  obtain ⟨habstractness, hinstability, hdistance, hoverage, hprimitiveness, -⟩ := hread
  refine updateFields_of_sets (by decide) (by decide) (List.Sublist.refl _) ?_ h
  exact sets_cons rfl (fun n hn => congrArg (Option.map _) (habstractness n hn)) <|
    sets_cons rfl (fun n hn => congrArg (Option.map _) (hinstability n hn)) <|
    sets_cons rfl (fun n hn => congrArg (Option.map _) (hdistance n hn)) <|
    sets_cons rfl (fun n hn => congrArg (Option.map _) (hoverage n hn)) <|
    sets_cons rfl (fun n hn => congrArg (Option.map _) (hprimitiveness n hn)) sets_nil

theorem UnitRef.updateFields_of_agrees {u : UnitRef} {n : Node} (h : u.toYaml.agrees n = true) :
    updateFields UnitRef.yamlFields {} n = some u := by
  have htext : ∀ text old n, (Node.ofText text).agrees n = true →
      updateString old n = some text :=
    fun text old n hn => (updateString_of_agrees hn old).2
  obtain ⟨name, path, owner⟩ := u
  by_cases hpath : path = ""
  · rw [UnitRef.toYaml, if_pos (by simp [hpath])] at h
    refine updateFields_of_sets (by decide) (by decide) ?_ ?_ h
    · simp [UnitRef.yamlFields]
    · rw [hpath]
      exact sets_cons rfl (fun n hn => congrArg (Option.map _) (htext name _ n hn)) <|
        sets_cons rfl (fun n hn => congrArg (Option.map _) (htext owner _ n hn)) sets_nil
  · rw [UnitRef.toYaml, if_neg (by simp [hpath])] at h
    refine updateFields_of_sets (by decide) (by decide) (List.Sublist.refl _) ?_ h
    exact sets_cons rfl (fun n hn => congrArg (Option.map _) (htext name _ n hn)) <|
      sets_cons rfl (fun n hn => congrArg (Option.map _) (htext path _ n hn)) <|
      sets_cons rfl (fun n hn => congrArg (Option.map _) (htext owner _ n hn)) sets_nil

theorem UnitViolation.updateFields_of_agrees {v : UnitViolation} {n : Node}
    (h : v.toYaml.agrees n = true) : updateFields UnitViolation.yamlFields {} n = some v := by
  refine updateFields_of_sets (by decide) (by decide) (List.Sublist.refl _) ?_ h
  exact sets_cons rfl
      (fun n hn => congrArg (Option.map _) (UnitRef.updateFields_of_agrees hn)) <|
    sets_cons rfl (fun n hn => congrArg (Option.map _) (UnitRef.updateFields_of_agrees hn)) sets_nil

theorem UnitViolation.updateYaml_of_agrees {vs : List UnitViolation} {n : Node}
    (h : (Node.sequence (vs.map UnitViolation.toYaml)).agrees n = true)
    (old : List UnitViolation) : UnitViolation.updateYaml old n = some vs := by
  have hread := updateRecords?_of_agrees (f := id) (fun v => rfl)
    (fun v _ n hn => UnitViolation.updateFields_of_agrees hn) h none
  rw [UnitViolation.updateYaml, updateList, hread, List.map_id]
  rfl

/-- The entry of a module with every cycle present. -/
def ModuleReport.present (m : ModuleReport) : ModuleReport :=
  { m with cycles := m.cycles.map fun c => some (c.getD []) }

theorem ModuleReport.updateFields_of_agrees {m : ModuleReport} {n : Node}
    (hunits : Number.isInt64 m.units = true)
    (hnumbers : ∀ x ∈ ReportStore.numbersOf m, updateFloat .zero (.ofBinary64 x) = some x)
    (h : m.toYaml.agrees n = true) : updateFields ModuleReport.yamlFields {} n = some m.present := by
  obtain ⟨hmetrics, hlimit⟩ := List.forall_mem_append.mp hnumbers
  let fixed : ModuleReport :=
    { name := m.name, enabled := m.enabled, units := m.units, metrics := m.metrics }
  let limited : ModuleReport := { fixed with maxDistance := m.maxDistance }
  have hfixed : Sets ModuleReport.yamlFields {}
      [("name", .ofText m.name), ("enabled", .ofBool m.enabled), ("units", .ofInt m.units),
        ("metrics", m.metrics.toYaml)] fixed :=
    sets_cons rfl (fun n hn => congrArg (Option.map _) (updateString_of_agrees hn _).2) <|
    sets_cons rfl (fun n hn => congrArg (Option.map _) (updateBool_of_agrees hn _)) <|
    sets_cons rfl (fun n hn => congrArg (Option.map _) (updateInt_of_agrees hunits hn _)) <|
    sets_cons rfl
      (fun n hn => congrArg (Option.map _) (Metrics.updateFields_of_agrees hmetrics hn)) sets_nil
  have hlimited : Sets ModuleReport.yamlFields fixed
      (m.maxDistance.map fun x => ("max_allowable_distance", Node.ofBinary64 x)).toList limited := by
    simp only [limited]
    cases hdistance : m.maxDistance with
    | none => exact sets_nil
    | some x =>
        have hx := hlimit x (by simp [hdistance])
        exact sets_cons rfl
          (fun n hn => congrArg (Option.map _) (updateFloat?_of_agrees hx hn _)) sets_nil
  refine updateFields_of_sets (by decide) (by decide) ?_ ?_ h
  · have hlimit : ((m.maxDistance.map fun x =>
        ("max_allowable_distance", Node.ofBinary64 x)).toList.map (·.1)).Sublist
          ["max_allowable_distance"] := by
      cases m.maxDistance <;> simp
    simp only [List.map_append]
    exact (((((((List.Sublist.refl _).append hlimit).append (names_listEntry _ _ _)).append
      (names_listEntry _ _ _)).append (names_listEntry _ _ _)).append
      (names_listEntry _ _ _)).append (names_listEntry _ _ _)).append (names_listEntry _ _ _)
  refine .append (.append (.append (.append (.append (.append (.append hfixed hlimited)
      (sets_listEntry (fun xs => { limited with dependencyModules := xs }) rfl rfl
        fun n hn => congrArg (Option.map _) (updateStrings_of_agrees hn _)))
      (sets_listEntry (fun xs => { limited with
        dependencyModules := m.dependencyModules, dependentModules := xs }) rfl rfl
        fun n hn => congrArg (Option.map _) (updateStrings_of_agrees hn _)))
      (sets_listEntry (fun xs => { m with
        illegalModules := xs, forbidden := [], leaks := [], cycles := [] }) rfl rfl
        fun n hn => congrArg (Option.map _) (updateStrings_of_agrees hn _)))
      (sets_listEntry (fun xs => { m with
        forbidden := xs, leaks := [], cycles := [] }) rfl rfl
        fun n hn => congrArg (Option.map _) (UnitViolation.updateYaml_of_agrees hn _)))
      (sets_listEntry (fun xs => { m with leaks := xs, cycles := [] }) rfl rfl
        fun n hn => congrArg (Option.map _) (UnitViolation.updateYaml_of_agrees hn _)))
      (sets_listEntry (fun xs => ModuleReport.present { m with cycles := xs }) rfl rfl
        fun n hn => congrArg (Option.map _) (updateLists_of_agrees hn _))

theorem Summary.updateFields_of_agrees {s : Summary} {n : Node}
    (hintegers : ∀ k ∈ s.integers, Number.isInt64 k = true) (h : s.toYaml.agrees n = true) :
    updateFields Summary.yamlFields {} n = some s := by
  have hread : ∀ k ∈ s.integers, ∀ old n, (Node.ofInt k).agrees n = true →
      updateInt old n = some k :=
    fun k hk old n hn => updateInt_of_agrees (hintegers k hk) hn old
  simp only [Summary.integers, List.forall_mem_cons] at hread
  obtain ⟨hmodules, hunits, hillegal, hforbidden, hleaks, hcycles, hoverages, -⟩ := hread
  refine updateFields_of_sets (by decide) (by decide) (List.Sublist.refl _) ?_ h
  exact sets_cons rfl (fun n hn => congrArg (Option.map _) (hmodules _ n hn)) <|
    sets_cons rfl (fun n hn => congrArg (Option.map _) (hunits _ n hn)) <|
    sets_cons rfl (fun n hn => congrArg (Option.map _) (hillegal _ n hn)) <|
    sets_cons rfl (fun n hn => congrArg (Option.map _) (hforbidden _ n hn)) <|
    sets_cons rfl (fun n hn => congrArg (Option.map _) (hleaks _ n hn)) <|
    sets_cons rfl (fun n hn => congrArg (Option.map _) (hcycles _ n hn)) <|
    sets_cons rfl (fun n hn => congrArg (Option.map _) (hoverages _ n hn)) sets_nil

/-- A report with every list present. -/
def Report.present (r : Report) : Report :=
  { r with modules := some (r.entries.map ModuleReport.present) }

/-- A report is read back from its data, with every list present. -/
theorem Report.updateFields_of_agrees {r : Report} {n : Node} (htime : r.generatedAt.IsUniversal)
    (hintegers : ∀ k ∈ r.integers, Number.isInt64 k = true)
    (hnumbers : ∀ x ∈ r.entries.flatMap ReportStore.numbersOf,
      updateFloat .zero (.ofBinary64 x) = some x)
    (h : r.toYaml.agrees n = true) : updateFields Report.yamlFields {} n = some r.present := by
  rw [Report.integers, List.forall_mem_append, List.forall_mem_cons, List.forall_mem_map]
    at hintegers
  obtain ⟨⟨hversion, hunits⟩, hsummary⟩ := hintegers
  rw [List.forall_mem_flatMap] at hnumbers
  have hmodules : ∀ n, (Node.sequence (r.entries.map (·.toYaml))).agrees n = true → ∀ old,
      updateList? (updateFields ModuleReport.yamlFields {}) old n =
        some (some (r.entries.map ModuleReport.present)) :=
    fun n hn => updateRecords?_of_agrees (fun m => rfl)
      (fun m hm n hn => ModuleReport.updateFields_of_agrees (hunits m hm) (hnumbers m hm) hn) hn
  refine updateFields_of_sets (by decide) (by decide) (List.Sublist.refl _) ?_ h
  exact sets_cons rfl (fun n hn => congrArg (Option.map _) (updateInt_of_agrees hversion hn _)) <|
    sets_cons rfl (fun n hn => congrArg (Option.map _) (updateString_of_agrees hn _).2) <|
    sets_cons rfl (fun n hn => congrArg (Option.map _) (updateTime_of_agrees htime hn _)) <|
    sets_cons rfl (fun n hn => congrArg (Option.map _) (hmodules n hn _)) <|
    sets_cons rfl (fun n hn => congrArg (Option.map _)
      (Summary.updateFields_of_agrees hsummary hn)) sets_nil

end ArchLint
