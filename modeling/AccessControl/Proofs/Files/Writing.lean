import AccessControl.Files.Basic
import AccessControl.Proofs.Failure.Results
import AccessControl.Proofs.Text.Utf8

/-!
# Reading what has been written

A text that is written to a file is read from it, `Files.textAt_write`, if the path can be
written to at all.
-/

namespace AccessControl

namespace Files

/-- A text can be written to a path: the path names a file in a folder, and no folder has its
name. -/
structure Writable (s : Files) (p : Location) : Prop where
  path : checkPath p = .ok ()
  named : p.parts ≠ []
  below : p.name ≠ ".."
  short : isLongName (draftName p.name) = false
  folder : ∃ names, s.locate p.parent = .ok (names, .folder) ∧
    s.node? (names ++ [p.name]) ≠ some .folder

/-! ### Nodes -/

theorem node?_put_same (s : Files) {names : List String} (hnames : names ≠ []) (node : FileNode) :
  (s.put names node).node? names = some node
  := by
  have habsent : (s.entries.filter fun e => e.1 != names).lookup names = none := by
    rw [List.lookup_eq_none_iff]
    intro e he
    have hother := (List.mem_filter.mp he).2
    rw [bne_iff_ne] at hother
    rw [bne_iff_ne]
    apply hother.symm
  rw [node?, if_neg (by simpa using hnames), put, List.lookup_append, habsent]
  simp

theorem node?_put_other
    (s : Files) {names names' : List String} (h : names' ≠ names) (node : FileNode) :
  (s.put names node).node? names' = s.node? names'
  := by
  have hkept : ∀ entries : List (List String × FileNode),
      (entries.filter fun e => e.1 != names).lookup names' = entries.lookup names' := by
    intro entries
    induction entries with
    | nil => rfl
    | cons e rest ih =>
        rw [List.filter_cons]
        split
        · rw [List.lookup_cons, List.lookup_cons, ih]
        case isFalse hsame =>
          rw [bne_iff_ne, not_not] at hsame
          rw [ih, List.lookup_cons, hsame, beq_false_of_ne h]
  have hlast : [(names, node)].lookup names' = none := by
    rw [List.lookup_cons, beq_false_of_ne h]
    rfl
  rw [node?, node?, put, List.lookup_append, hkept, hlast, Option.or_none]

/-! ### Paths -/

/-- The last name of a path is followed from where the names before it lead. -/
theorem follow_append
    {s : Files} {at_ names : List String} {node : FileNode} {xs : List String}
    (h : s.follow at_ xs = .ok (names, node)) (ys : List String) :
  s.follow at_ (xs ++ ys) = s.follow names ys
  := by
  induction xs generalizing at_ with
  | nil =>
      rw [follow] at h
      cases hnode : s.node? at_ with
      | none =>
          rw [hnode] at h
          cases h
      | some node' =>
          rw [hnode] at h
          cases h
          rfl
  | cons x rest ih =>
      rw [follow] at h
      rw [List.cons_append, follow]
      cases hnode : s.node? at_ with
      | none =>
          rw [hnode] at h
          cases h
      | some node' =>
          rw [hnode] at h
          cases node' with
          | file bytes => cases h
          | folder =>
              dsimp only at h ⊢
              split at h
              · cases h
              case isFalse hshort =>
                rw [if_neg hshort]
                apply ih h

/-- Where a path leads there is a node. -/
theorem node?_of_follow
    {s : Files} {at_ names xs : List String} {node : FileNode}
    (h : s.follow at_ xs = .ok (names, node)) :
  s.node? names = some node
  := by
  have hend := follow_append h []
  rw [List.append_nil, h, follow] at hend
  cases hnode : s.node? names with
  | none =>
      rw [hnode] at hend
      cases hend
  | some node' =>
      rw [hnode] at hend
      cases hend
      rfl

/-- A file that is put where there is no folder is on no path to a folder. -/
theorem follow_put
    {s : Files} {target : List String} (htarget : s.node? target ≠ some .folder) (node : FileNode)
    {at_ names xs : List String} (h : s.follow at_ xs = .ok (names, .folder)) :
  (s.put target node).follow at_ xs = .ok (names, .folder)
  := by
  have hother : ∀ names', s.node? names' = some .folder →
      (s.put target node).node? names' = some .folder := by
    intro names' hnames'
    rw [node?_put_other s _ node, hnames']
    rintro rfl
    apply htarget hnames'
  induction xs generalizing at_ with
  | nil =>
      rw [follow] at h ⊢
      cases hnode : s.node? at_ with
      | none =>
          rw [hnode] at h
          cases h
      | some node' =>
          rw [hnode] at h
          cases h
          rw [hother _ hnode]
  | cons x rest ih =>
      rw [follow] at h ⊢
      cases hnode : s.node? at_ with
      | none =>
          rw [hnode] at h
          cases h
      | some node' =>
          rw [hnode] at h
          cases node' with
          | file bytes => cases h
          | folder =>
              rw [hother _ hnode]
              dsimp only at h ⊢
              split at h
              · cases h
              case isFalse hshort =>
                rw [if_neg hshort]
                apply ih h

theorem isLongName_of_draftName {name : String} (h : isLongName (draftName name) = false) :
  isLongName name = false
  := by
  rw [isLongName, decide_eq_false_iff_not] at h ⊢
  rw [draftName, String.utf8ByteSize_append, String.utf8ByteSize_append] at h
  omega

/-! ### Files -/

/-- A file that is put in a folder is found at its path. -/
theorem locate_put
    {s : Files} {p : Location} (hnamed : p.parts ≠ []) (hbelow : p.name ≠ "..")
    (hshort : isLongName p.name = false) {names : List String}
    (hfolder : s.locate p.parent = .ok (names, .folder))
    (htarget : s.node? (names ++ [p.name]) ≠ some .folder) (bytes : List UInt8) :
  (s.put (names ++ [p.name]) (.file bytes)).locate p = .ok (names ++ [p.name], .file bytes)
  := by
  have hparts : p.parts = p.parent.parts ++ [p.name] := by
    rw [Location.parent, Location.name, List.getLastD_eq_getLast?, List.getLast?_eq_some_getLast hnamed]
    apply (List.dropLast_append_getLast hnamed).symm
  rw [locate] at hfolder ⊢
  split at hfolder
  case isFalse => cases hfolder
  case isTrue hroot =>
    rw [Bool.and_eq_true] at hroot
    have hprefix := List.isPrefixOf_iff_prefix.mp hroot.2
    have hprefix' : (Location.ofText s.root).parts.isPrefixOf p.parts = true := by
      rw [hparts, List.isPrefixOf_iff_prefix]
      apply hprefix.trans (List.prefix_append _ _)
    change (if p.absolute == (Location.ofText s.root).absolute
      && (Location.ofText s.root).parts.isPrefixOf p.parts then _ else _) = _
    rw [if_pos (by rw [hprefix', Bool.and_true]; exact hroot.1)]
    change Files.follow _ [] (p.parts.drop (Location.ofText s.root).parts.length) = _
    have hfound := follow_put htarget (.file bytes) hfolder
    have hput := node?_put_same s (List.append_ne_nil_of_right_ne_nil names (List.cons_ne_nil p.name []))
      (.file bytes)
    rw [hparts, List.drop_append_of_le_length hprefix.length_le, follow_append hfound, follow,
      node?_of_follow hfound]
    dsimp only
    rw [hshort, if_neg hbelow, follow, hput]
    rfl

/-- A text that is written to a path is read from it. -/
theorem textAt_write {s : Files} {p : Location} (h : s.Writable p) (text : String) :
  ∃ s', s.write p text = .ok s' ∧ s'.textAt p = .ok text
  := by
  obtain ⟨names, hlocate, htarget⟩ := h.folder
  have hfolder : ∀ path, s.folderFor p.parent (draftName p.name) path = .ok names := by
    intro path
    rw [folderFor, hlocate]
    dsimp only
    rw [h.short]
    rfl
  use s.put (names ++ [p.name]) (.file (Utf8.encode text))
  constructor
  · rw [write]
    refine bind_eq_ok.mpr ⟨(), h.path, bind_eq_ok.mpr ⟨names, hfolder _, ?_⟩⟩
    split
    case h_1 hnode => exact absurd hnode htarget
    case h_2 => rfl
  · have hread := locate_put h.named h.below (isLongName_of_draftName h.short) hlocate htarget
      (Utf8.encode text)
    have hbytes : (s.put (names ++ [p.name]) (.file (Utf8.encode text))).bytesAt p
        = .ok (Utf8.encode text) := by
      rw [bytesAt, h.path, hread]
      rfl
    rw [textAt]
    refine bind_eq_ok.mpr ⟨Utf8.encode text, hbytes, ?_⟩
    rw [Utf8.decode_encode]
    rfl

end Files

end AccessControl
