import Conformance.Proofs.Canonical
import Conformance.Proofs.FileTree
import Conformance.Workspace.Basic

/-! Registries as they are loaded: every definition carries the name it stands under. -/
namespace Conformance

namespace Registry

private theorem find?_foldl_insertNew {α : Type} {entries : List (String × α)} {d : Dict α}
    {name : String}
    {value : α} (found : (entries.foldl (fun d entry => d.insertNew entry.1 entry.2) d).find? name =
      some value) : d.find? name = some value ∨ (name, value) ∈ entries := by
  induction entries generalizing d with
  | nil => exact .inl found
  | cons entry rest ih =>
    rw [List.foldl_cons] at found
    rcases ih found with before | later
    · unfold Dict.insertNew at before
      split at before
      · exact .inl before
      · rw [Dict.find?_insert] at before
        split at before
        · rename_i same
          cases before
          exact .inr (same ▸ List.mem_cons_self)
        · exact .inl before
    · exact .inr (List.mem_cons_of_mem _ later)

theorem find?_addNew {α : Type} {known defined : Dict α} {name : String} {value : α}
    (found : (addNew known defined).find? name = some value) :
    known.find? name = some value ∨ defined.find? name = some value :=
  (find?_foldl_insertNew found).imp id Dict.find?_eq_some.2

theorem wellNamed_empty : ({} : Registry).WellNamed := ⟨nofun, nofun, nofun⟩

/-- Merging names the definitions that it takes in. -/
theorem WellNamed.merge {r : Registry} (named : r.WellNamed) (path : String) (file : RegistryFile) :
    (r.merge path file).WellNamed := by
  refine ⟨fun id node found => ?_, fun name mixin found => ?_, fun name intent found => ?_⟩
  · rcases find?_addNew found with known | new
    · exact named.nodes id node known
    · rw [Dict.find?_map] at new
      obtain ⟨_, -, rfl⟩ := Option.map_eq_some_iff.1 new
      rfl
  · rcases find?_addNew found with known | new
    · exact named.mixins name mixin known
    · rw [Dict.find?_map] at new
      obtain ⟨_, -, rfl⟩ := Option.map_eq_some_iff.1 new
      rfl
  · rcases find?_addNew found with known | new
    · exact named.intents name intent known
    · rw [Dict.find?_map] at new
      obtain ⟨_, -, rfl⟩ := Option.map_eq_some_iff.1 new
      rfl

end Registry

namespace Workspace

private theorem loadRegistryFile_named {t : FileTree} {r r' : Registry} (named : r.WellNamed)
    {path : String} (loaded : loadRegistryFile t r path = .ok r') : r'.WellNamed := by
  obtain ⟨text, -, loaded⟩ := bind_eq_ok loaded
  split at loaded
  · rename_i merged read
    cases loaded
    obtain ⟨file, -, rfl⟩ := Option.map_eq_some_iff.1 read
    exact named.merge path file
  · cases loaded

theorem loadRegistryFiles_named {t : FileTree} {paths : List String} {r r' : Registry}
    (named : r.WellNamed) (loaded : paths.foldlM (loadRegistryFile t) r = .ok r') : r'.WellNamed := by
  induction paths generalizing r with
  | nil =>
    cases loaded
    exact named
  | cons path rest ih =>
    rw [List.foldlM_cons] at loaded
    obtain ⟨next, first, loaded⟩ := bind_eq_ok loaded
    exact ih (loadRegistryFile_named named first) loaded

/-- Whatever files a registry is loaded from, its definitions carry their names. -/
theorem loadRegistry_named {t : FileTree} {root : String} {r : Registry}
    (loaded : loadRegistry t root = .ok r) : r.WellNamed :=
  loadRegistryFiles_named Registry.wellNamed_empty loaded

end Workspace

end Conformance
