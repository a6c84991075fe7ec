import Mathlib.Data.List.Induction
import Mathlib.Data.List.Nodup
import Mathlib.Data.List.Perm.Subperm
import StatementBundler.Loader
import StatementBundler.Proofs.Path

/-!
# A loader reads each of its texts under one path

A memory gives the text that was put into it last under any spelling of a normal path
(`Loader.read_ofFiles`).

Different normal paths lead to different places of a loader.  The texts that are read under them are
therefore texts that the loader holds, each counted as often as it is read (`Loader.texts_subperm`).
-/

namespace StatementBundler

variable {found : List (Path × String)}

/-- The entries that are found one by one for some keys. -/
lemma exists_entries {ε κ : Type} {entries : List ε} {key : ε → κ} {text : ε → Option String}
    {place : Path → κ}
    (each : ∀ file ∈ found, ∃ entry ∈ entries,
      key entry = place file.1 ∧ text entry = some file.2) :
    ∃ picked ⊆ entries, picked.map key = found.map (fun file => place file.1) ∧
      picked.filterMap text = found.map Prod.snd := by
  induction found with
  | nil => exact ⟨[], List.nil_subset _, rfl, rfl⟩
  | cons file found ih =>
    obtain ⟨⟨entry, inside, sameKey, sameText⟩, each⟩ := List.forall_mem_cons.mp each
    obtain ⟨picked, within, sameKeys, sameTexts⟩ := ih each
    refine ⟨entry :: picked, List.cons_subset.mpr ⟨inside, within⟩, ?_, ?_⟩
    · rw [List.map_cons, List.map_cons, sameKey, sameKeys]
    · rw [List.filterMap_cons_some sameText, List.map_cons, sameTexts]

/-- Texts that are found under paths which lead to different keys are texts of as many entries. -/
lemma subperm_of_keys {ε κ : Type} {entries : List ε} (key : ε → κ) {text : ε → Option String}
    (place : Path → κ) (distinct : (found.map Prod.fst).Nodup)
    (injective : ∀ file ∈ found, ∀ other ∈ found, place file.1 = place other.1 → file.1 = other.1)
    (each : ∀ file ∈ found, ∃ entry ∈ entries,
      key entry = place file.1 ∧ text entry = some file.2) :
    (found.map Prod.snd).Subperm (entries.filterMap text) := by
  obtain ⟨picked, within, sameKeys, sameTexts⟩ := exists_entries each
  have places : ((found.map Prod.fst).map place).Nodup := by
    refine distinct.map_on fun first inside second inside' => ?_
    obtain ⟨file, isFound, rfl⟩ := List.mem_map.mp inside
    obtain ⟨other, isFound', rfl⟩ := List.mem_map.mp inside'
    exact injective file isFound other isFound'
  have picks : picked.Nodup := by
    refine .of_map key ?_
    rw [sameKeys]
    rwa [List.map_map] at places
  obtain ⟨sorted, perm, sublist⟩ := picks.subperm within
  rw [← sameTexts]
  exact ⟨sorted.filterMap text, perm.filterMap text, sublist.filterMap text⟩

namespace Disk

variable {disk : Disk}

/-- A file that is walked to stands at the place to which the names lead. -/
lemma mem_of_walk {visited names : List String} {bytes : ByteArray}
    (h : disk.walk visited names = .ok (.file bytes)) : (visited ++ names, .file bytes) ∈ disk := by
  induction names generalizing visited with
  | nil =>
    rw [walk, entry?] at h
    split at h
    · rename_i place entry found
      obtain rfl : entry = .file bytes := Except.ok.inj h
      obtain rfl : place = visited := by simpa using List.find?_some found
      simpa using List.mem_of_find?_eq_some found
    · split at h <;> cases h
  | cons name names ih =>
    rw [walk] at h
    split at h
    · cases h
    · cases h
    · split at h
      · cases h
      · simpa using ih h

/-- A text that is read is that of the file to which the names of an absolute path lead. -/
lemma mem_of_read {path : Path} {text : String} (h : disk.read path = .ok text) :
    path.isAbsolute ∧
      ∃ bytes, (path.names, .file bytes) ∈ disk ∧ String.fromUTF8? bytes = some text := by
  unfold read at h
  simp only [bind, Except.bind, pure, throw, throwThe, MonadExceptOf.throw] at h
  split at h
  · cases h
  · split at h
    · cases h
    · rename_i absolute
      split at h
      · cases h
      · rename_i walked
        split at h
        · cases h
        · rename_i bytes
          refine ⟨by simpa using absolute, bytes, mem_of_walk walked, ?_⟩
          cases decoded : String.fromUTF8? bytes with
          | none =>
            rw [decoded] at h
            cases h
          | some decodedText =>
            rw [decoded] at h
            rw [Except.ok.inj h]

end Disk

/-! ## Texts -/

namespace Loader

/-- The last of some texts is put into the memory that holds the others. -/
lemma ofFiles_concat (files : List (Path × String)) (last : Path × String) :
    ofFiles (files ++ [last]) = (ofFiles files).insert last.1 last.2 := by
  rw [ofFiles, List.foldl_append]
  rfl

/-- Texts that are put into a memory are held in memory. -/
lemma exists_memory (files : List (Path × String)) : ∃ held, ofFiles files = .memory held := by
  induction files using List.reverseRecOn with
  | nil => exact ⟨[], rfl⟩
  | append_singleton files last ih =>
    obtain ⟨held, memory⟩ := ih
    rw [ofFiles_concat, memory]
    exact ⟨_, rfl⟩

/-- A text that is put into a memory is read under the normal form of its path.  What is read under
other normal paths stays the same. -/
lemma read_insert {path : Path} (normal : path.IsNormal) (held : List (Path × String))
    (place : Path) (code : String) :
    ((memory held).insert place code).read path =
      if place.normalize = path then .ok code else (memory held).read path := by
  have sameForm : place.normalize.components = path.components ↔ place.normalize = path :=
    ⟨fun same => Path.IsNormal.eq_of_components_eq ⟨place, rfl⟩ normal same,
      congrArg Path.components⟩
  have meets : place.normalize.sameComponents path = decide (place.normalize = path) :=
    decide_eq_decide.mpr sameForm
  rw [insert, read, List.find?_cons, meets]
  by_cases here : place.normalize = path
  · rw [if_pos here, decide_eq_true here]
    rfl
  · -- What the new text replaces is not what is looked for.
    have kept : (held.filter fun file => !file.1.sameComponents place.normalize).find?
        (·.1.sameComponents path) = held.find? (·.1.sameComponents path) := by
      rw [List.find?_filter]
      refine congrArg (held.find? ·) (funext fun file => ?_)
      rw [Path.sameComponents, Path.sameComponents]
      by_cases found : file.1.components = path.components
      · have other : path.components ≠ place.normalize.components :=
          fun same => here (sameForm.mp same.symm)
        simp [found, other]
      · simp [found]
    rw [if_neg here, decide_eq_false here, read]
    simp only [kept]

/-- A memory gives the text that was put last under a path of the same normal form. -/
theorem read_ofFiles {path : Path} (normal : path.IsNormal) (files : List (Path × String)) :
    (ofFiles files).read path =
      match files.reverse.find? (·.1.normalize = path) with
      | some (_, code) => .ok code
      | none => .error (.noVirtualModule path.text) := by
  induction files using List.reverseRecOn with
  | nil => rfl
  | append_singleton files last ih =>
    obtain ⟨held, memory⟩ := exists_memory files
    rw [memory] at ih
    rw [ofFiles_concat, memory, read_insert normal, ih, List.reverse_concat, List.find?_cons]
    by_cases here : last.1.normalize = path
    · rw [if_pos here, decide_eq_true here]
    · rw [if_neg here, decide_eq_false here]

/-- A text that is read under a normal path from a memory was put there under a path of this
form. -/
lemma exists_file_of_read {files : List (Path × String)} {path : Path} {code : String}
    (normal : path.IsNormal) (read : (ofFiles files).read path = .ok code) :
    ∃ given ∈ files, given.1.normalize = path ∧ given.2 = code := by
  rw [read_ofFiles normal] at read
  split at read
  · rename_i place text found
    have inside := List.mem_reverse.mp (List.mem_of_find?_eq_some found)
    exact ⟨(place, text), inside, by simpa using List.find?_some found, Except.ok.inj read⟩
  · cases read

/-- The texts that are read under different normal paths are texts that the loader holds. -/
theorem texts_subperm {loader : Loader} (distinct : (found.map Prod.fst).Nodup)
    (normal : ∀ file ∈ found, file.1.IsNormal)
    (read : ∀ file ∈ found, loader.read file.1 = .ok file.2) :
    (found.map Prod.snd).Subperm loader.texts := by
  cases loader with
  | memory files =>
    have held : texts (.memory files) = files.filterMap (some ∘ Prod.snd) :=
      (congrFun List.filterMap_eq_map files).symm
    rw [held]
    refine subperm_of_keys (fun entry : Path × String => entry.1.components) Path.components
      distinct
      (fun file isFound other isFound' =>
        (normal file isFound).eq_of_components_eq (normal other isFound'))
      fun file isFound => ?_
    have here := read file isFound
    rw [Loader.read] at here
    split at here
    · rename_i place code looked
      obtain rfl := Except.ok.inj here
      have same : place.components = file.1.components := by
        simpa [Path.sameComponents] using List.find?_some looked
      exact ⟨_, List.mem_of_find?_eq_some looked, same, rfl⟩
    · cases here
  | disk volume =>
    have here file (isFound : file ∈ found) := Disk.mem_of_read (read file isFound)
    refine subperm_of_keys Prod.fst Path.names distinct
      (fun file isFound other isFound' =>
        (normal file isFound).eq_of_names_eq (normal other isFound') (here file isFound).1
          (here other isFound').1)
      fun file isFound => ?_
    obtain ⟨-, bytes, inside, decoded⟩ := here file isFound
    exact ⟨_, inside, rfl, decoded⟩

end Loader

end StatementBundler
