import Gallery.Proofs.Library.Moves
import Gallery.Store.Load

/-!
# `Gallery.Proofs.Library.History` — a library and all its earlier snapshots

The cache is shared by queries on the current snapshot and on snapshots kept from earlier, while the
library is changed and read anew.  Versions keep the entries apart: a catalog that means something
else has a version that nothing had before, so an entry is only ever served to catalogs for which it
is valid, whatever the order of the steps.

## Contents
- `Store.load_spec`, what a loaded snapshot looks like.
- `Step`, `History` and `History.run`, the steps of a library with all its snapshots; `Started`, how
  a library begins.
- `Consistent`, the invariant, with one lemma for each kind of step; `consistent_run`.
- The result: at any time and on any snapshot, queries are compiled as without a cache.
-/

namespace Gallery

open Query

/-! ## Loading -/

theorem ok_of_bind {α β ε : Type} {r : Except ε α} {f : α → Except ε β} {b : β}
    (h : r >>= f = .ok b) : ∃ a, r = .ok a ∧ f a = .ok b := by
  cases r with
  | error e => cases h
  | ok a => exact ⟨a, rfl, h⟩

/-- What each step of a fold keeps is kept by the fold. -/
theorem foldlM_ok {σ α ε : Type} {f : σ → α → Except ε σ} (P : σ → Prop)
    (hstep : ∀ s a s', P s → f s a = .ok s' → P s') {as : List α} {s s' : σ} (h : P s)
    (hs : as.foldlM f s = .ok s') : P s' := by
  induction as generalizing s with
  | nil =>
    cases hs
    exact h
  | cons a as ih =>
    rw [List.foldlM_cons] at hs
    obtain ⟨s₁, ha, hs⟩ := ok_of_bind hs
    exact ih (hstep s a s₁ h ha) hs

namespace Store

variable {s : Store} {fresh : Version} {snapshot : Snapshot}

theorem blank_loadTypes {c : Catalog} (h : s.loadTypes = .ok c) : c.Blank := by
  refine foldlM_ok Catalog.Blank (fun c t c' hc ht => ?_) Catalog.blank_empty h
  unfold Catalog.insertType at ht
  split at ht
  · cases ht
  · cases ht
    exact hc

theorem version_loadTags {c c' : Catalog} (hc : c.Blank) (h : s.loadTags fresh c = .ok c') :
    c'.Blank ∨ c'.version = fresh := by
  refine foldlM_ok (fun c => c.Blank ∨ c.version = fresh) (fun c t c' _ ht => .inr ?_) (.inl hc) h
  unfold Catalog.insertTag at ht
  split at ht
  · cases ht
  · split at ht
    · cases ht
    · cases ht
      rfl

theorem leadsTo_loadLabels {c : Catalog} {x y : Index} {row : ImageId × ImageRow}
    (h : s.loadLabels c x row = .ok y) : x.LeadsTo y := by
  unfold loadLabels at h
  split at h
  · cases h
    exact .refl x
  · exact Index.leadsTo_settleDone (.setLabels row.1 _) rfl h

/-- **A loaded snapshot** has a blank catalog or the fresh version, and its index is one that
changes lead to. -/
theorem load_spec (h : s.load fresh = .ok snapshot) :
    (snapshot.catalog.Blank ∨ snapshot.catalog.version = fresh)
      ∧ (∅ : Index).LeadsTo snapshot.index := by
  obtain ⟨c, htypes, h⟩ := ok_of_bind h
  obtain ⟨c', htags, h⟩ := ok_of_bind h
  obtain ⟨x, himages, h⟩ := ok_of_bind h
  obtain ⟨y, hlabels, h⟩ := ok_of_bind h
  cases h
  refine ⟨version_loadTags (blank_loadTypes htypes) htags, ?_⟩
  have hx : (∅ : Index).LeadsTo x := by
    refine foldlM_ok (∅ : Index).LeadsTo (fun y image z hy hi => ?_) (.refl ∅) himages
    exact hy.trans (Index.leadsTo_settleDone (.insertImage image) rfl hi)
  refine foldlM_ok (∅ : Index).LeadsTo (fun y row z hy hl => ?_) hx hlabels
  exact hy.trans (leadsTo_loadLabels hl)

end Store

/-! ## Steps -/

/-- Something that is done with a library. -/
inductive Step where
  | change (c : LibraryChange)
  | reload (s : Store)
  | query (text : String) (tok : CancelToken)
  | validate (text : String)
  | explain (text : String)
  /-- Compiles a query on the snapshot with the given number. -/
  | compile (i : Nat) (text : String)

/-- A library and all snapshots that it has had, the current one among them. -/
structure History where
  library : Library
  /-- The snapshots, latest first. -/
  snapshots : List Snapshot

namespace History

/-- The history of a library that has just begun. -/
def start (lib : Library) : History := ⟨lib, [lib.snapshot]⟩

/-- The library has become another. -/
def proceed (h : History) (lib : Library) : History := ⟨lib, lib.snapshot :: h.snapshots⟩

/-- Does a step; a library that cannot be read again stays as it is. -/
def step (h : History) : Step → History
  | .change c => h.proceed (h.library.apply c).2
  | .reload s =>
    match h.library.reload s with
    | .error _ => h
    | .ok lib => h.proceed lib
  | .query text tok => h.proceed (h.library.query text tok).2
  | .validate text => h.proceed (h.library.validate text).2
  | .explain text => h.proceed (h.library.explain text).2
  | .compile i text =>
    match h.snapshots[i]? with
    | none => h
    | some s => h.proceed (h.library.compileOn s text).2

/-- Does several steps with a library that has just begun. -/
def run (lib : Library) (steps : List Step) : History := steps.foldl step (start lib)

end History

/-- How a library begins: without images and tags, or read from a store. -/
inductive Library.Started : Library → Prop
  | empty (similarity : Similarity) : Started { similarity }
  | loaded {lib : Library} (s : Store) (similarity : Similarity)
      (h : ofStore s similarity = .ok lib) : Started lib

/-! ## The invariant -/

/-- The invariant of histories.  The supply `fresh` is above all versions in use, and the cache is
sound for every snapshot. -/
structure Consistent (h : History) : Prop where
  current : h.library.snapshot ∈ h.snapshots
  version_lt : ∀ s ∈ h.snapshots, s.catalog.version < h.library.fresh
  entry_lt : ∀ l x, h.library.cache.entries.get? l = some x → x.version < h.library.fresh
  alike : ∀ s ∈ h.snapshots, ∀ t ∈ h.snapshots, s.catalog.Alike t.catalog
  blank : ∀ s ∈ h.snapshots, s.catalog.version = 0 → s.catalog.Blank
  sound : ∀ s ∈ h.snapshots, Sound s.catalog h.library.cache
  index : ∀ s ∈ h.snapshots, (∅ : Index).LeadsTo s.index

variable {h : History} {lib : Library}

theorem consistent_start (hcache : lib.cache = .empty)
    (hversion : lib.snapshot.catalog.version < lib.fresh)
    (hblank : lib.snapshot.catalog.version = 0 → lib.snapshot.catalog.Blank)
    (hindex : (∅ : Index).LeadsTo lib.snapshot.index) : Consistent (.start lib) where
  current := List.mem_cons_self
  version_lt := List.forall_mem_singleton.mpr hversion
  entry_lt := by
    intro l x hx
    have hx' : lib.cache.entries.get? l = some x := hx
    rw [hcache] at hx'
    cases hx'
  alike := List.forall_mem_singleton.mpr (List.forall_mem_singleton.mpr fun _ _ => rfl)
  blank := List.forall_mem_singleton.mpr hblank
  sound := List.forall_mem_singleton.mpr (hcache ▸ sound_empty _)
  index := List.forall_mem_singleton.mpr hindex

/-- A loaded catalog has the version with which catalogs begin only if it is blank. -/
theorem Store.blank_of_load {s : Store} {fresh : Version} {snapshot : Snapshot}
    (h : s.load fresh = .ok snapshot) (hfresh : 0 < fresh) (hzero : snapshot.catalog.version = 0) :
    snapshot.catalog.Blank := by
  rcases (load_spec h).1 with hblank | hversion
  · exact hblank
  · exact absurd (hversion.symm.trans hzero) (Nat.ne_of_gt hfresh)

theorem Library.Started.consistent (hstart : lib.Started) : Consistent (.start lib) := by
  cases hstart with
  | empty similarity =>
    exact consistent_start rfl Nat.zero_lt_one (fun _ => Catalog.blank_empty) (.refl ∅)
  | loaded s similarity hload =>
    obtain ⟨snapshot, hs, hlib⟩ := ok_of_bind hload
    cases hlib
    exact consistent_start rfl (Nat.le_max_right 1 _) (Store.blank_of_load hs Nat.zero_lt_one)
      (Store.load_spec hs).2

/-- A cache that is sound for one catalog is sound for another that is alike, if it serves the other
only where it would serve the first. -/
theorem Query.Sound.alike {c d : Catalog} {k : Cache} (hk : Sound c k) (hcd : c.Alike d)
    (hv : ∀ l x, k.entries.get? l = some x → x.version = d.version → c.version = d.version) :
    Sound d k := by
  intro l x hx hversion
  have hsame := hv l x hx hversion
  exact hk.congr hsame.symm (fun m => (hcd hsame m).symm) l x hx hversion

/-- The library goes on with a snapshot that is alike to all earlier ones. -/
theorem Consistent.proceed (hh : Consistent h) (hfresh : h.library.fresh ≤ lib.fresh)
    (hversion : lib.snapshot.catalog.version < lib.fresh)
    (hentry : ∀ l x, lib.cache.entries.get? l = some x → x.version < lib.fresh)
    (halike : ∀ s ∈ h.snapshots, lib.snapshot.catalog.Alike s.catalog)
    (hblank : lib.snapshot.catalog.version = 0 → lib.snapshot.catalog.Blank)
    (hsound : ∀ s ∈ lib.snapshot :: h.snapshots, Sound s.catalog lib.cache)
    (hindex : (∅ : Index).LeadsTo lib.snapshot.index) : Consistent (h.proceed lib) where
  current := List.mem_cons_self
  version_lt := List.forall_mem_cons.mpr
    ⟨hversion, fun s hs => Nat.lt_of_lt_of_le (hh.version_lt s hs) hfresh⟩
  entry_lt := hentry
  alike := by
    refine List.forall_mem_cons.mpr ⟨List.forall_mem_cons.mpr ⟨fun _ _ => rfl, halike⟩, ?_⟩
    exact fun s hs => List.forall_mem_cons.mpr ⟨(halike s hs).symm, hh.alike s hs⟩
  blank := List.forall_mem_cons.mpr ⟨hblank, hh.blank⟩
  sound := hsound
  index := List.forall_mem_cons.mpr ⟨hindex, hh.index⟩

/-! ## Each step keeps the invariant -/

section

variable {affected : List String} {c : Catalog}

theorem Consistent.fresh_pos (hh : Consistent h) : 0 < h.library.fresh :=
  Nat.lt_of_le_of_lt (Nat.zero_le _) (hh.version_lt _ hh.current)

/-- Versions tell what the catalogs of all snapshots mean. -/
theorem Consistent.told (hh : Consistent h) :
    Catalog.Told (h.snapshots.map (·.catalog)) h.library.fresh where
  fresh_pos := hh.fresh_pos
  version_lt := List.forall_mem_map.mpr hh.version_lt
  alike := List.forall_mem_map.mpr fun s hs => List.forall_mem_map.mpr (hh.alike s hs)
  blank := List.forall_mem_map.mpr hh.blank

/-- A catalog that has moved is alike to all catalogs before. -/
theorem Consistent.alike_of_moves (hh : Consistent h)
    (hc : h.library.snapshot.catalog.Moves h.library.fresh affected c) :
    ∀ s ∈ h.snapshots, c.Alike s.catalog :=
  List.forall_mem_map.mp (hh.told.alike_of_moves (List.mem_map_of_mem hh.current) hc)

theorem Consistent.blank_of_moves (hh : Consistent h)
    (hc : h.library.snapshot.catalog.Moves h.library.fresh affected c) (hzero : c.version = 0) :
    c.Blank :=
  hh.told.blank_of_moves (List.mem_map_of_mem hh.current) hc hzero

/-- A cache that is kept serves nothing to a catalog that means something else, for no entry has the
fresh version yet. -/
theorem Consistent.sound_of_moves (hh : Consistent h)
    (hc : h.library.snapshot.catalog.Moves h.library.fresh affected c) :
    Sound c h.library.cache := by
  have halike := (hh.alike_of_moves hc _ hh.current).symm
  refine (hh.sound _ hh.current).alike halike fun l x hx hv => ?_
  cases hc with
  | same hv' hm => exact hv'.symm
  | fresh hv' hm => exact absurd (hv.trans hv') (Nat.ne_of_lt (hh.entry_lt l x hx))

/-- A cache that is carried over is sound for the catalog that has moved and for all before. -/
theorem Consistent.sound_invalidate (hh : Consistent h)
    (hc : h.library.snapshot.catalog.Moves h.library.fresh affected c) {s : Snapshot}
    (hs : s ∈ h.snapshots) :
    Sound s.catalog
      (h.library.cache.invalidate affected h.library.snapshot.catalog.version c.version) := by
  have hnew := Query.sound_invalidate (hh.sound _ hh.current) fun m hm => hc.meaning_eq hm
  refine hnew.alike (hh.alike_of_moves hc s hs) fun l x hx hv => ?_
  exact (version_of_invalidate hx).symm.trans hv

theorem Consistent.follows (hh : Consistent h) (hlib : h.library.Follows affected lib) :
    Consistent (h.proceed lib) := by
  have hmoves := hlib.snapshot.catalog
  have hle : h.library.fresh ≤ lib.fresh := hlib.fresh ▸ Nat.le_max_left _ _
  have hlt : lib.snapshot.catalog.version < lib.fresh := hlib.fresh ▸ Nat.le_max_right _ _
  have hindex := (hh.index _ hh.current).trans hlib.snapshot.index
  rcases hlib.cache with hcache | hcache
  · refine hh.proceed hle hlt (fun l x hx => ?_) (hh.alike_of_moves hmoves)
      (hh.blank_of_moves hmoves) ?_ hindex
    · exact Nat.lt_of_lt_of_le (hh.entry_lt l x (hcache ▸ hx)) hle
    · rw [hcache]
      exact List.forall_mem_cons.mpr ⟨hh.sound_of_moves hmoves, hh.sound⟩
  · refine hh.proceed hle hlt (fun l x hx => ?_) (hh.alike_of_moves hmoves)
      (hh.blank_of_moves hmoves) ?_ hindex
    · exact version_of_invalidate (hcache ▸ hx) ▸ hlt
    · rw [hcache]
      refine List.forall_mem_cons.mpr ⟨?_, fun s hs => hh.sound_invalidate hmoves hs⟩
      exact Query.sound_invalidate (hh.sound _ hh.current) fun m hm => hmoves.meaning_eq hm

end

/-- A library that has only added valid entries to its cache. -/
theorem Consistent.grows (hh : Consistent h) {s : Snapshot} (hs : s ∈ h.snapshots) {k : Cache}
    (hk : Grows s.catalog h.library.cache k) :
    Consistent (h.proceed { h.library with cache := k }) := by
  have hcurrent := hh.current
  refine hh.proceed (Nat.le_refl _) (hh.version_lt _ hcurrent) (fun l x hx => ?_)
    (hh.alike _ hcurrent) (hh.blank _ hcurrent) ?_ (hh.index _ hcurrent)
  · rcases hk l x hx with hold | hnew
    · exact hh.entry_lt l x hold
    · exact hnew.1 ▸ hh.version_lt s hs
  · have hall : ∀ t ∈ h.snapshots, Sound t.catalog k := by
      intro t ht l x hx hv
      rcases hk l x hx with hold | ⟨hversion, hvalid⟩
      · exact hh.sound t ht l x hold hv
      · have halike := hh.alike t ht s hs (hv.symm.trans hversion)
        exact hvalid.congr (fun m _ => halike m) x.version
    exact List.forall_mem_cons.mpr ⟨hall _ hcurrent, hall⟩

/-- A library that is read again shares no version with what was there, unless both know no
label. -/
theorem Consistent.reload (hh : Consistent h) {s : Store}
    (hlib : h.library.reload s = .ok lib) : Consistent (h.proceed lib) := by
  obtain ⟨snapshot, hs, hlib⟩ := ok_of_bind hlib
  cases hlib
  have hblank := Store.blank_of_load hs hh.fresh_pos
  refine hh.proceed (Nat.le_max_left _ _) (Nat.le_max_right _ _) (fun _ _ hx => nomatch hx) ?_
    hblank (fun t _ => sound_empty t.catalog) (Store.load_spec hs).2
  intro t ht hv l
  rcases (Store.load_spec hs).1 with hb | hversion
  · exact (hb.2 l).trans ((hh.blank t ht (hv.symm.trans hb.1)).2 l).symm
  · exact absurd (hv.symm.trans hversion) (Nat.ne_of_lt (hh.version_lt t ht))

/-! ## Compiling -/

/-- Compiling with a sound cache is compiling without. -/
theorem Snapshot.compile_eq {s : Snapshot} {k : Cache} (hk : Sound s.catalog k) (text : String) :
    (s.compile true text k).1 = (s.compile false text .empty).1
      ∧ Grows s.catalog k (s.compile true text k).2 := by
  unfold compile
  cases parse text with
  | error e => exact ⟨rfl, .refl _ _⟩
  | ok e =>
    obtain ⟨hresult, hgrows⟩ := resolveWith_eq hk e
    rcases hrun : resolveWith s.catalog true e k with ⟨result, k₁⟩
    rcases hrun' : resolveWith s.catalog false e .empty with ⟨result', k₂⟩
    rw [hrun, hrun'] at hresult
    rw [hrun] at hgrows
    obtain rfl : result = result' := hresult
    dsimp only
    rw [hrun, hrun']
    cases result with
    | error err => exact ⟨rfl, hgrows⟩
    | ok r => exact ⟨rfl, hgrows⟩

theorem Consistent.compileOn (hh : Consistent h) {s : Snapshot} (hs : s ∈ h.snapshots)
    (text : String) : Consistent (h.proceed (h.library.compileOn s text).2) :=
  hh.grows hs (Snapshot.compile_eq (hh.sound s hs) text).2

/-- A query changes a library as compiling it does. -/
theorem Library.query_snd (lib : Library) (text : String) (tok : CancelToken) :
    (lib.query text tok).2 = (lib.compile text).2 := by
  unfold query
  split
  · rename_i hc
    rw [hc]
  · rename_i hc
    split <;> rw [hc]

theorem Library.validate_snd (lib : Library) (text : String) :
    (lib.validate text).2 = (lib.compile text).2 := by
  unfold validate
  split <;> rename_i hc <;> rw [hc]

theorem Library.explain_snd (lib : Library) (text : String) :
    (lib.explain text).2 = (lib.compile text).2 := by
  unfold explain
  split <;> rename_i hc <;> rw [hc]

/-- **Every step keeps the invariant.** -/
theorem Consistent.step (hh : Consistent h) (step : Step) : Consistent (h.step step) := by
  cases step with
  | change c =>
    show Consistent (h.proceed (h.library.apply c).2)
    rcases h.library.follows_apply c with hsame | ⟨affected, hfollows⟩
    · rw [hsame]
      exact hh.grows hh.current (.refl _ _)
    · exact hh.follows hfollows
  | reload s =>
    simp only [History.step]
    split
    · exact hh
    · rename_i hlib
      exact hh.reload hlib
  | query text tok =>
    show Consistent (h.proceed (h.library.query text tok).2)
    rw [Library.query_snd]
    exact hh.compileOn hh.current text
  | validate text =>
    show Consistent (h.proceed (h.library.validate text).2)
    rw [Library.validate_snd]
    exact hh.compileOn hh.current text
  | explain text =>
    show Consistent (h.proceed (h.library.explain text).2)
    rw [Library.explain_snd]
    exact hh.compileOn hh.current text
  | compile i text =>
    simp only [History.step]
    split
    · exact hh
    · rename_i s hs
      exact hh.compileOn (List.mem_of_getElem? hs) text

/-- **Every history is consistent.** -/
theorem consistent_run (hstart : lib.Started) (steps : List Step) :
    Consistent (.run lib steps) := by
  have hfold : ∀ {h : History}, Consistent h → Consistent (steps.foldl History.step h) := by
    induction steps with
    | nil => exact fun hh => hh
    | cons step steps ih => exact fun hh => ih (hh.step step)
  exact hfold hstart.consistent

/-- **The cache does not show.**  After any steps, a query that is compiled with the shared cache on
the current snapshot or on an earlier one has the result that it has on that snapshot without a
cache, be it an expression with its warnings or an error. -/
theorem compileOn_uncached (hstart : lib.Started) (steps : List Step) (s : Snapshot)
    (hs : s ∈ (History.run lib steps).snapshots) (text : String) :
    ((History.run lib steps).library.compileOn s text).1 = (s.compile false text .empty).1 :=
  (Snapshot.compile_eq ((consistent_run hstart steps).sound s hs) text).1

/-- A compound tag is expanded, redefined and expanded again. -/
def redefinition : List Step :=
  [.change (.createTag "red" none none), .change (.createTag "blue" none none),
    .change (.createTag "favorite" none (some "red")), .query "favorite" .never,
    .change (.redefineTag "favorite" (some "blue")), .query "favorite" .never]

/-- The snapshot before the tag is redefined keeps the old expansion, though the cache holds that of
the current one. -/
theorem compileOn_uncached_redefinition :
    ∃ s ∈ (History.run {} redefinition).snapshots,
      ((History.run {} redefinition).library.compileOn s "favorite").1 = .ok ⟨.tag "red", []⟩
        ∧ ((History.run {} redefinition).library.compile "favorite").1 = .ok ⟨.tag "blue", []⟩ := by
  have hs : (History.run {} redefinition).snapshots.getD 2 ∅
      ∈ (History.run {} redefinition).snapshots := by decide +kernel
  refine ⟨_, hs, ?_, ?_⟩
  · rw [compileOn_uncached (.empty default) redefinition _ hs]
    decide +kernel
  · decide +kernel

end Gallery
