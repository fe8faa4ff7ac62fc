import SpillSelection.Files.Tree
import SpillSelection.Proofs.RunFiles
import SpillSelection.Proofs.TableText
/-!
# What is written is read

A file system keeps what is written if a write that succeeds leaves the bytes where a read of the
same path finds them. A map of files does so at once. In a file tree the path is followed a second
time, through directories that the write has changed: they are directories still, so the walk ends
at the same place (`FileTree.keepsWrites`).
-/

namespace SpillSelection

variable {σ : Type}

/-- What is written to a path is read from it. -/
def FileAccess.KeepsWrites (files : FileAccess (StateM σ)) : Prop :=
  ∀ path bytes s s', (files.write path bytes).run s = (.ok (), s') →
    (files.read path).run s' = (.ok bytes, s')

theorem FileAccess.KeepsWrites.readText {files : FileAccess (StateM σ)} (h : files.KeepsWrites)
    {path text : String} {s s' : σ} (wrote : (files.writeText path text).run s = (.ok (), s')) :
    (files.readText path).run s' = (.ok text, s') := by
  exact run_readText (h path _ s s' wrote)

theorem FileMap.keepsWrites : FileMap.access.KeepsWrites := by
  intro path bytes d d' wrote
  have left : d.put path bytes = d' := congrArg Prod.snd wrote
  rw [← left]
  exact (access_stores.read path _).trans (by simp [answer])

/-! ## Places in a tree -/

namespace FileNode

variable {new root : FileNode} {place other : Place}

/-- A directory lies at a place. -/
def IsDirAt (root : FileNode) (place : Place) : Prop :=
  ∃ entries, root.get? place = some (.directory entries)

theorem get?_concat (root : FileNode) (place : Place) (name : String) :
    get? (place ++ [name]) root = (get? place root).bind (get? [name]) := by
  induction place generalizing root with
  | nil => rfl
  | cons first place ih =>
    cases root with
    | file bytes => rfl
    | directory entries =>
      rw [List.cons_append, get?, get?, Option.bind_assoc]
      exact Option.bind_congr fun inner _ => ih inner

/-- A node that is put into a directory is found there. -/
theorem get?_put_self {name : String} (h : root.IsDirAt place) :
    get? (place ++ [name]) (put new (place ++ [name]) root) = some new := by
  induction place generalizing root with
  | nil =>
    obtain ⟨entries, found⟩ := h
    cases found
    simp [put, get?, ByName.lookup_insert_self]
  | cons first place ih =>
    obtain ⟨entries, found⟩ := h
    cases root with
    | file bytes => cases found
    | directory outer =>
      obtain ⟨inner, held, found⟩ := Option.bind_eq_some_iff.1 found
      rw [List.cons_append, put, get?, ByName.lookup_insert_self, held]
      exact ih ⟨entries, found⟩

/-- A directory stays one when something is put where no directory was. -/
theorem IsDirAt.put (h : root.IsDirAt place) (other_file : ¬root.IsDirAt other) :
    (put new other root).IsDirAt place := by
  induction other generalizing root place with
  | nil =>
    cases root with
    | directory entries => exact absurd ⟨entries, rfl⟩ other_file
    | file bytes =>
      obtain ⟨entries, found⟩ := h
      cases place <;> cases found
  | cons first other ih =>
    cases root with
    | file bytes => exact h
    | directory outer =>
      cases place with
      | nil => exact ⟨_, rfl⟩
      | cons name place =>
        obtain ⟨entries, found⟩ := h
        obtain ⟨inner, held, found⟩ := Option.bind_eq_some_iff.1 found
        rw [FileNode.put, IsDirAt, get?]
        by_cases same : name = first
        · subst same
          rw [ByName.lookup_insert_self, held]
          refine ih ⟨entries, found⟩ fun ⟨below, at_other⟩ => other_file ⟨below, ?_⟩
          rw [get?, held]
          exact at_other
        · rw [ByName.lookup_insert_of_ne same, held]
          exact ⟨entries, found⟩

end FileNode

/-! ## Trails -/

namespace Trail

/-- Every name of a trail was looked up in the directory before it. -/
inductive Leads (root : FileNode) : Trail → Prop
  | start : Leads root []
  | step {trail : Trail} {entries : List (String × FileNode)} (name : String) :
    Leads root trail → root.get? trail.place = some (.directory entries) →
      Leads root ((name, entries.lookup name) :: trail)

/-- The names of a trail, the last first. -/
def names (trail : Trail) : List String := trail.map (·.1)

variable {root : FileNode} {trail trail' : Trail}

theorem place_cons (step : String × Option FileNode) (trail : Trail) :
    place (step :: trail) = place trail ++ [step.1] := by
  simp [place]

theorem place_congr (same : trail'.names = trail.names) : trail'.place = trail.place :=
  congrArg List.reverse same

theorem Leads.tail (h : trail.Leads root) : Leads root trail.tail := by
  cases h with
  | start => exact .start
  | step _ before _ => exact before

end Trail

namespace FileTree

variable {t t' : FileTree} {start trail trail' : Trail} {names : List String}

/-- A trail ends with what lies at its place. -/
theorem nodeAt_eq_get? (h : trail.Leads t.root) : t.nodeAt trail = t.root.get? trail.place := by
  cases h with
  | start => rfl
  | step name _ found =>
    rw [Trail.place_cons, FileNode.get?_concat, found]
    simp [nodeAt, FileNode.get?]

theorem leads_of_follow (h : trail.Leads t.root) (walk : t.follow trail names = .ok trail') :
    trail'.Leads t.root := by
  induction names generalizing trail with
  | nil =>
    cases walk
    exact h
  | cons name names ih =>
    rw [follow] at walk
    split at walk
    · cases walk
    · cases walk
    · rename_i entries found
      rw [nodeAt_eq_get? h] at found
      split at walk
      · exact ih h walk
      split at walk
      · exact ih h.tail walk
      split at walk
      · cases walk
      · exact ih (.step name h found) walk

/-- Where directories stay, names lead to the same place. -/
theorem exists_follow (dirs : ∀ place, t.root.IsDirAt place → t'.root.IsDirAt place)
    (h : trail.Leads t.root) (h' : start.Leads t'.root) (same : start.names = trail.names)
    (walk : t.follow trail names = .ok trail') :
    ∃ stop, t'.follow start names = .ok stop ∧ stop.Leads t'.root ∧ stop.names = trail'.names := by
  induction names generalizing trail start with
  | nil =>
    cases walk
    exact ⟨start, rfl, h', same⟩
  | cons name names ih =>
    rw [follow, nodeAt_eq_get? h] at walk
    rw [follow, nodeAt_eq_get? h', Trail.place_congr same]
    split at walk
    · cases walk
    · cases walk
    rename_i entries found
    obtain ⟨entries', found'⟩ := dirs _ ⟨entries, found⟩
    simp only [found']
    by_cases stays : name = "" ∨ name = "."
    · rw [if_pos stays] at walk ⊢
      exact ih h h' same walk
    rw [if_neg stays] at walk ⊢
    by_cases up : name = ".."
    · rw [if_pos up] at walk ⊢
      refine ih h.tail h'.tail ?_ walk
      simpa [Trail.names] using congrArg List.tail same
    rw [if_neg up] at walk ⊢
    split at walk
    · cases walk
    rename_i short
    rw [if_neg short]
    rw [← Trail.place_congr same] at found'
    exact ih (.step name h found) (.step name h' found') (congrArg (name :: ·) same) walk

/-- The names that lead from the root to where a path begins. -/
def origin (t : FileTree) (path : String) : List String :=
  if Path.isAbsolute path then [] else t.workingDir

theorem trail_ok_iff {path : String} : t.trail path = .ok trail ↔
    requirePath path = .ok () ∧ ∃ start, t.follow [] (t.origin path) = .ok start ∧
      t.follow start (splitNames [] path.toList) = .ok trail := by
  unfold FileTree.trail origin
  simp only [ok_bind_iff, Unique.exists_iff]
  split <;> simp [follow]

/-- Where directories stay, a path leads to the same place. -/
theorem exists_trail (dirs : ∀ place, t.root.IsDirAt place → t'.root.IsDirAt place)
    (home : t'.workingDir = t.workingDir) {path : String} (walk : t.trail path = .ok trail) :
    trail.Leads t.root ∧
    ∃ stop, t'.trail path = .ok stop ∧ stop.Leads t'.root ∧ stop.names = trail.names := by
  obtain ⟨legal, start, begun, ended⟩ := trail_ok_iff.1 walk
  have begins := leads_of_follow .start begun
  obtain ⟨start', begun', begins', same⟩ := exists_follow dirs .start .start rfl begun
  obtain ⟨stop, ended', stops, same⟩ := exists_follow dirs begins begins' same ended
  have origins : t'.origin path = t.origin path := by rw [origin, home, origin]
  exact ⟨leads_of_follow begins ended, stop,
    trail_ok_iff.2 ⟨legal, start', origins ▸ begun', ended'⟩, stops, same⟩

/-- A file that was written to a path is read from it. -/
theorem read_of_write {path : String} {bytes : List UInt8} (wrote : t.write path bytes = .ok t') :
    t'.read path = .ok bytes := by
  obtain ⟨trail, walk, put⟩ := ok_bind_iff.1 wrote
  have leads : trail.Leads t.root := (exists_trail (fun _ h => h) rfl walk).1
  have noDir : ¬t.root.IsDirAt trail.place := by
    rintro ⟨entries, found⟩
    rw [nodeAt_eq_get? leads, found] at put
    cases put
  have left : t.put trail.place (.file bytes) = t' := by
    split at put
    · cases put
    · cases put
      rfl
  subst left
  have dirs : ∀ place, t.root.IsDirAt place →
      (t.put trail.place (.file bytes)).root.IsDirAt place := fun _ h => h.put noDir
  obtain ⟨-, stop, walked, stops, same⟩ := exists_trail dirs rfl walk
  have there : (t.put trail.place (.file bytes)).nodeAt stop = some (.file bytes) := by
    rw [nodeAt_eq_get? stops, Trail.place_congr same]
    cases leads with
    | start => rfl
    | step name _ found =>
      rw [Trail.place_cons]
      exact FileNode.get?_put_self ⟨_, found⟩
  rw [read, walked]
  simp only [bind, Except.bind, there]
  rfl

theorem run_change (f : FileTree → Except FileError FileTree) (t : FileTree) :
    (change f).run t = match f t with
      | .ok t' => (.ok (), t')
      | .error e => (.error e, t) := by
  unfold change
  rw [StateT.run_bind, StateT.run_get, pure_bind]
  cases f t <;> rfl

theorem keepsWrites : access.KeepsWrites := by
  intro path bytes t t' wrote
  have ended := (run_change (·.write path bytes) t).symm.trans wrote
  cases result : t.write path bytes with
  | error e =>
    simp only [result] at ended
    cases ended
  | ok written =>
    simp only [result] at ended
    cases ended
    exact Prod.ext (read_of_write result) rfl

end FileTree

end SpillSelection
