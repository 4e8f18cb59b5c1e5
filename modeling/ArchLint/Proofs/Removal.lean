import ArchLint.Proofs.Directories

namespace ArchLint

namespace Disk

variable {d d' : Disk} {place p q : Place} {path : String}

theorem follow_unique {names : List String} (h : d.follow place names = .ok p)
    (h' : d'.follow place names = .ok q) : p = q := by
  induction names generalizing place with
  | nil =>
      cases h
      cases h'
      rfl
  | cons name names ih =>
      have hdirectory := find?_of_follow_cons h
      have hdirectory' := find?_of_follow_cons h'
      rw [follow, hdirectory] at h
      rw [follow, hdirectory'] at h'
      dsimp only at h h'
      split_ifs at h h'
      · exact ih h h'
      · exact ih h h'
      · exact ih h h'

theorem locate_unique (hworking : d'.workingDirectory = d.workingDirectory)
    (h : d.locate path = .ok p) (h' : d'.locate path = .ok q) : p = q := by
  have hnames : d'.namesOf path = d.namesOf path := by rw [namesOf, namesOf, hworking]
  have hfollow := (locate_eq_ok h').2.2
  rw [hnames] at hfollow
  exact follow_unique (locate_eq_ok h).2.2 hfollow

theorem not_below_itself (place : Place) (entry : String) : ¬place ++ [entry] <+: place := by
  intro h
  have hlength := h.length_le
  rw [List.length_append, List.length_singleton] at hlength
  omega

theorem prefix_of_follow {names : List String} (hnames : ".." ∉ names)
    (h : d.follow place names = .ok p) : place <+: p := by
  induction names generalizing place with
  | nil =>
      cases h
      exact List.prefix_rfl
  | cons name names ih =>
      obtain ⟨hup, hrest⟩ := not_or.mp (mt List.mem_cons.mpr hnames)
      rw [follow, find?_of_follow_cons h] at h
      dsimp only at h
      split_ifs at h with hstay hname
      · exact ih hrest h
      · exact absurd hname.symm hup
      · exact (List.prefix_append place [name]).trans (ih hrest h)

theorem follow_without {entry : String} {names : List String}
    (hsame : ∀ q, ¬p ++ [entry] <+: q → d'.find? q = d.find? q)
    (hnames : ¬[entry, ".."].Sublist names) (hplace : ¬p ++ [entry] <+: place)
    (h : d.follow place names = .ok p) : d'.follow place names = .ok p := by
  induction names generalizing place with
  | nil => exact h
  | cons name names ih =>
      have hrest : ¬[entry, ".."].Sublist names := fun hsub => hnames (hsub.cons name)
      have hdirectory := find?_of_follow_cons h
      rw [follow, hdirectory] at h
      rw [follow, hsame place hplace, hdirectory]
      dsimp only at h ⊢
      split_ifs at h ⊢ with hstay hup
      · exact ih hrest hplace h
      · exact ih hrest (fun hp => hplace (hp.trans (List.dropLast_prefix place))) h
      · refine ih hrest (fun hp => ?_) h
        rcases List.prefix_concat_iff.mp hp with heq | hp
        · -- the entry was entered, and nothing leads up from it again
          obtain ⟨rfl, hentry⟩ := List.append_inj' heq rfl
          obtain rfl : entry = name := by simpa using hentry
          have hdown : ".." ∉ names := fun hmem =>
            hnames (List.cons_sublist_cons.mpr (List.singleton_sublist.mpr hmem))
          exact not_below_itself p entry (prefix_of_follow hdown h)
        · exact hplace hp

theorem find?_above_of_follow {names : List String}
    (habove : ∀ q, q <+: place → q ≠ place → d.find? q = some .directory)
    (h : d.follow place names = .ok p) :
    ∀ q, q <+: p → q ≠ p → d.find? q = some .directory := by
  induction names generalizing place with
  | nil =>
      cases h
      exact habove
  | cons name names ih =>
      have hdirectory := find?_of_follow_cons h
      have hopen : ∀ q, q <+: place → d.find? q = some .directory := by
        intro q hq
        by_cases hself : q = place
        · rw [hself, hdirectory]
        · exact habove q hq hself
      rw [follow, hdirectory] at h
      dsimp only at h
      split_ifs at h
      · exact ih habove h
      · exact ih (fun q hq _ => hopen q (hq.trans (List.dropLast_prefix place))) h
      · refine ih (fun q hq hne => ?_) h
        rcases List.prefix_concat_iff.mp hq with heq | hq
        · exact absurd heq hne
        · exact hopen q hq

/-- The path of a directory leads there also without one of its entries, unless
it goes through the entry and up again. Another path shows that the entry is
not above the working directory. -/
theorem locate_without {entry other : String} (hlocate : d.locate path = .ok p)
    (hgone : d'.find? (p ++ [entry]) = none)
    (hsame : ∀ q, ¬p ++ [entry] <+: q → d'.find? q = d.find? q)
    (hworking : d'.workingDirectory = d.workingDirectory)
    (hpath : ¬[entry, ".."].Sublist (SlashPath.segments path))
    (hother : d'.locate other = .ok q)
    (hrooted : SlashPath.isAbsolute other = SlashPath.isAbsolute path) :
    d'.locate path = .ok p := by
  obtain ⟨hempty, hnul, hfollow⟩ := locate_eq_ok hlocate
  refine locate_of_follow hempty hnul ?_
  cases habsolute : SlashPath.isAbsolute path with
  | true =>
      rw [namesOf, habsolute, if_pos rfl] at hfollow ⊢
      exact follow_without hsame hpath (by simp) hfollow
  | false =>
      rw [habsolute] at hrooted
      have hfollow' := (locate_eq_ok hother).2.2
      rw [namesOf_relative habsolute, follow_append] at hfollow
      rw [namesOf_relative hrooted, follow_append] at hfollow'
      rw [namesOf_relative habsolute, follow_append]
      rw [hworking] at hfollow' ⊢
      cases hstart : d.follow [] (SlashPath.segments d.workingDirectory) with
      | error cause => simp [hstart, Except.bind] at hfollow
      | ok start =>
      cases hstart' : d'.follow [] (SlashPath.segments d.workingDirectory) with
      | error cause => simp [hstart', Except.bind] at hfollow'
      | ok start' =>
      obtain rfl := follow_unique hstart hstart'
      rw [hstart] at hfollow
      rw [hstart'] at hfollow'
      refine follow_without hsame hpath (fun hbelow => ?_) hfollow
      have hopen : d'.find? (p ++ [entry]) = some .directory := by
        by_cases hself : p ++ [entry] = start
        · rw [hself]
          exact find?_of_follow_segments hfollow'
        · exact find?_above_of_follow (fun r hr hne => absurd (List.prefix_nil.mp hr) hne) hstart'
            _ hbelow hself
      rw [hgone] at hopen
      cases hopen

theorem write_eq_ok {content : ByteArray} (h : d.write path content = .ok d') :
    ∃ place, d.locate path = .ok place ∧ d.find? place ≠ some .directory ∧
      d' = d.put place (.file content) := by
  simp only [write, during, bind, Except.bind] at h
  split at h
  next => cases h
  next place hlocate =>
    split at h
    next => cases h
    next hfind =>
      cases h
      exact ⟨place, hlocate, hfind, rfl⟩

theorem find?_eraseTree_self (hplace : place ≠ []) : (d.eraseTree place).find? place = none := by
  simp only [find?, eraseTree, List.isEmpty_iff, hplace, if_false, List.lookup_eq_none_iff,
    List.mem_filter]
  rintro n ⟨-, hn⟩
  rw [bne_iff_ne]
  rintro rfl
  rw [Bool.not_eq_true', ← Bool.not_eq_true, List.isPrefixOf_iff_prefix] at hn
  exact hn List.prefix_rfl

theorem remove_cases (hlocate : d.locate path = .ok place) (hplace : place ≠ []) :
    (∃ cleared, d.remove path = .ok cleared ∧ cleared.find? place = none ∧
      (∀ q, ¬place <+: q → cleared.find? q = d.find? q) ∧
      cleared.workingDirectory = d.workingDirectory) ∨
    ∃ fault, d.remove path = .error fault ∧
      (fault.cause = .notExist → d.find? place = none) := by
  cases hfind : d.find? place with
  | none =>
      have hnode : d.nodeAt path = .error .notExist := by
        simp only [nodeAt, hlocate, bind, Except.bind, hfind]
      refine Or.inr ⟨⟨"remove", path, .notExist⟩, ?_, fun _ => rfl⟩
      simp only [remove, during, hnode, bind, Except.bind, Except.mapError]
  | some node =>
      have hnode := nodeAt_of_locate hlocate hfind
      by_cases hfull : node = .directory ∧ d.hasBelow place
      · refine Or.inr ⟨⟨"remove", path, .notEmpty⟩, ?_, fun h => by cases h⟩
        simp only [remove, during, hnode, bind, Except.bind, if_pos hfull, Except.mapError]
      · refine Or.inl ⟨d.eraseTree place, ?_, find?_eraseTree_self hplace,
          fun q hq => find?_eraseTree hq, rfl⟩
        simp only [remove, during, hnode, bind, Except.bind, if_neg hfull, Except.mapError]

theorem stat_of_nodeAt {node : DiskNode} (h : d.nodeAt path = .ok (place, node)) :
    d.stat path = .ok node := by
  simp only [stat, during, h, Except.map, Except.mapError]

theorem exists?_of_nodeAt {node : DiskNode} (h : d.nodeAt path = .ok (place, node)) :
    d.exists? path = true := by
  rw [exists?, stat_of_nodeAt h]
  rfl

theorem exists?_eq_false (h : ∀ place, d.locate path = .ok place → d.find? place = none) :
    d.exists? path = false := by
  rw [exists?, stat, during, nodeAt]
  cases hlocate : d.locate path with
  | error cause => rfl
  | ok place =>
      simp only [bind, Except.bind, h place hlocate]
      rfl

end Disk

end ArchLint
