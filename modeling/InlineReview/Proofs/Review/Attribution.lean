import InlineReview.Lint.Linter
import InlineReview.Proofs.Path.Relative
import InlineReview.Review.Excerpt

/-!
# Which file a report is about

The linter reports a file under some path, and the review takes it for the changed file whose name
is the way from the workspace to that path.  A clean name is that way for exactly the paths that
lead to the file of this name in the workspace, and in particular for the path under which the
linter is given the file.

* `placeOf_text_pathOf` — the path that the linter is given leads back to the name.
* `placeOf_eq_ok_iff` — the paths that are taken for a changed file.
* `placeOf_attributes` — all of it, for every spelling of the workspace.
-/

namespace InlineReview

open InlineReview.Path

section

variable {workspace file name : String}

theorem isPart_of_mem_join_ofText {directory q p : String}
    (h : p ∈ ((ofText directory).join (ofText q)).parts) : IsPart p :=
  isPart_of_mem_join (fun _ => isPart_of_mem_ofText) (fun _ => isPart_of_mem_ofText) h

/-- A path below a directory is read back when it is written. -/
theorem ofText_text_join_ofText (directory name : String) :
    ofText ((ofText directory).join (ofText name)).text =
      (ofText directory).join (ofText name) :=
  ofText_text fun _ => isPart_of_mem_join_ofText

theorem components_join_of_isClean (root : Path) (hname : IsClean name) :
    (root.join (ofText name)).components = root.components ++ (ofText name).parts :=
  components_join_of_not_mem hname.anchor_eq hname.above_not_mem

/-- A path is taken for the changed file of a clean name exactly if it leads to the file of this
name in the workspace. -/
theorem placeOf_eq_ok_iff (root : Path) (hfile : file ≠ "") (hname : IsClean name) :
    placeOf file root = .ok name ↔
      (ofText file).components = (root.join (ofText name)).components := by
  rw [placeOf, if_neg hfile, Except.ok.injEq, components_join_of_isClean root hname]
  exact text_relative_eq_iff (fun _ => isPart_of_mem_ofText) hname

/-- The same seen from any directory, which both paths may be relative to. -/
theorem text_relative_join_eq_iff (directory : String) (hname : IsClean name) :
    (relative ((ofText directory).join (ofText workspace))
        ((ofText directory).join (ofText file))).text = name ↔
      ((ofText directory).join (ofText file)).components =
        ((ofText directory).join ((ofText workspace).join (ofText name))).components := by
  rw [join_join hname.anchor_eq, components_join_of_isClean _ hname]
  exact text_relative_eq_iff (fun _ => isPart_of_mem_join_ofText) hname

/-- The path under which the linter is given a changed file leads back to its name. -/
theorem placeOf_text_pathOf {l : Linter} (hworkspace : l.workspace = ofText workspace)
    (hname : IsClean name) : placeOf (l.pathOf name).text l.workspace = .ok name := by
  rw [placeOf_eq_ok_iff l.workspace (text_ne_empty _) hname, Linter.pathOf, hworkspace,
    ofText_text_join_ofText]

/-- The same seen from any directory. -/
theorem text_relative_pathOf {l : Linter} (hworkspace : l.workspace = ofText workspace)
    (hname : IsClean name) (directory : String) :
    (relative ((ofText directory).join l.workspace)
      ((ofText directory).join (ofText (l.pathOf name).text))).text = name := by
  rw [hworkspace, text_relative_join_eq_iff directory hname, Linter.pathOf, hworkspace,
    ofText_text_join_ofText]

/-- A path that does not lead into the workspace is taken for no changed file. -/
theorem placeOf_ne_of_outside (root : Path) (hname : IsClean name)
    (houtside : ¬ root.components <+: (ofText file).components) : placeOf file root ≠ .ok name := by
  intro h
  by_cases hfile : file = ""
  · rw [placeOf, if_pos hfile] at h
    cases h
  · have hcomponents := (placeOf_eq_ok_iff root hfile hname).1 h
    rw [components_join_of_isClean root hname] at hcomponents
    exact houtside ⟨_, hcomponents.symm⟩

/-- The same seen from any directory. -/
theorem text_relative_ne_of_outside (hname : IsClean name) {directory : String}
    (houtside : ¬ ((ofText directory).join (ofText workspace)).components <+:
      ((ofText directory).join (ofText file)).components) :
    (relative ((ofText directory).join (ofText workspace))
      ((ofText directory).join (ofText file))).text ≠ name := by
  intro h
  have hcomponents := (text_relative_join_eq_iff directory hname).1 h
  rw [join_join hname.anchor_eq, components_join_of_isClean _ hname] at hcomponents
  exact houtside ⟨_, hcomponents.symm⟩

end

/-- Whatever the spelling of the workspace, a reported path is taken for the changed file of a clean
name exactly if it leads to the file of this name in the workspace, where both are seen from the
root directory or from any other one.  So it is for the argument that names the file to the linter,
and never for a path outside the workspace, wherever they are seen from. -/
theorem placeOf_attributes (workspace name : String) (hname : IsClean name) :
    (∀ file, file ≠ "" → (placeOf file (ofText workspace) = .ok name ↔
      (ofText file).components = ((ofText workspace).join (ofText name)).components)) ∧
    (∀ directory file, (relative ((ofText directory).join (ofText workspace))
          ((ofText directory).join (ofText file))).text = name ↔
      ((ofText directory).join (ofText file)).components =
        ((ofText directory).join ((ofText workspace).join (ofText name))).components) ∧
    (∀ (l : Linter) (files : List String) (i : Nat), l.workspace = ofText workspace →
      files[i]? = some name → ∃ argument, (l.commandFor files)[i + 1]? = some argument ∧
        placeOf argument l.workspace = .ok name ∧
        ∀ directory, (relative ((ofText directory).join l.workspace)
          ((ofText directory).join (ofText argument))).text = name) ∧
    (∀ file, ¬ (ofText workspace).components <+: (ofText file).components →
      placeOf file (ofText workspace) ≠ .ok name) ∧
    ∀ directory file, ¬ ((ofText directory).join (ofText workspace)).components <+:
        ((ofText directory).join (ofText file)).components →
      (relative ((ofText directory).join (ofText workspace))
        ((ofText directory).join (ofText file))).text ≠ name := by
  refine ⟨fun file hfile => placeOf_eq_ok_iff _ hfile hname,
    fun directory file => text_relative_join_eq_iff directory hname, ?_,
    fun file houtside => placeOf_ne_of_outside _ hname houtside,
    fun directory file houtside => text_relative_ne_of_outside hname houtside⟩
  intro l files i hworkspace hi
  refine ⟨(l.pathOf name).text, ?_, placeOf_text_pathOf hworkspace hname,
    text_relative_pathOf hworkspace hname⟩
  have hmapped : (files.map fun f => (l.pathOf f).text)[i]? = some (l.pathOf name).text := by
    rw [List.getElem?_map, hi]
    rfl
  rw [Linter.commandFor, List.singleton_append, List.cons_append, List.getElem?_cons_succ]
  have hlt : i < (files.map fun f => (l.pathOf f).text).length :=
    (List.getElem?_eq_some_iff.1 hmapped).1
  rw [List.getElem?_append_left hlt, hmapped]

/-- A path that goes up and down again is taken for the file that it leads to, in a workspace that
is spelled with a detour. -/
theorem placeOf_detour :
    IsClean "src/a.js" ∧ "w/x/../src//./a.js/" ≠ "" ∧
      placeOf "w/x/../src//./a.js/" (ofText "/../w//y/..") = .ok "src/a.js" := by
  have hname : IsClean "src/a.js" := by decide
  have hfile : "w/x/../src//./a.js/" ≠ "" := by decide
  refine ⟨hname, hfile, ?_⟩
  obtain ⟨hexact, -⟩ := placeOf_attributes "/../w//y/.." "src/a.js" hname
  rw [hexact _ hfile]
  decide

end InlineReview
