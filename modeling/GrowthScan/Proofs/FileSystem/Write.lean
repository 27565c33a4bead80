import GrowthScan.Proofs.FileSystem.Place

/-!
# Reading what was written to a file

A path that may be written leads to what was written there (`FileSystem.disk_withFile`), and to
write the same again changes nothing (`FileSystem.write_withFile`).

The place that such a path leads to can hold a file (`FileSystem.canHold_of_placeToWrite`). Once
the file is there, each step of looking up the path finds what it found before, up to the last
one, which finds the file (`FileSystem.lookUp_withFile`).
-/

namespace GrowthScan

namespace FileSystem

open Node (CanHold LooksLike at? at?_concat at?_dropLast put)

variable {fs : FileSystem} {fuel links : Nat} {here more : List String} {path : String}
  {place : List String} {p : Place}

/-! ## Steps -/

theorem exists_part {s : List Char} {c : Char} (h : s.getLast? = some c) (hc : c ≠ '/') :
    ∃ part ∈ s.splitOn '/', part ≠ [] := by
  by_cases hmem : '/' ∈ s
  · obtain ⟨front, back, rfl, -⟩ := List.eq_append_cons_of_mem hmem
    have hback : back.getLast? = some c := by
      cases back with
      | nil =>
        rw [List.getLast?_append] at h
        exact absurd (Option.some.inj h).symm hc
      | cons _ _ => simpa using h
    obtain ⟨part, hpart, hne⟩ := exists_part hback hc
    rw [List.splitOn_append_cons_self]
    exact ⟨part, List.mem_append_right _ hpart, hne⟩
  · rw [List.splitOn_eq_singleton hmem]
    refine ⟨s, List.mem_singleton_self s, ?_⟩
    rintro rfl
    cases h
termination_by s.length

/-- Every path but the empty one takes some step. -/
theorem steps_ne_nil (h : path.isEmpty = false) : steps path ≠ [] := by
  have hne : path.toList ≠ [] := by
    intro hnil
    rw [String.toList_eq_nil_iff.mp hnil] at h
    cases h
  rw [steps, Ne, List.map_eq_nil_iff]
  split
  · exact List.append_ne_nil_of_right_ne_nil _ (List.cons_ne_nil _ _)
  · rename_i hlast
    rw [List.getLast?_eq_some_getLast hne, Option.some.injEq] at hlast
    obtain ⟨part, hpart, hpartne⟩ := exists_part (List.getLast?_eq_some_getLast hne) hlast
    exact List.ne_nil_of_mem (List.mem_filter.mpr ⟨hpart, by simpa using hpartne⟩)

theorem lookUp_nil (fs : FileSystem) (fuel links : Nat) (here : List String) :
    fs.lookUp fuel links here [] = .ok (.found here) := by
  cases fuel <;> rfl

theorem lookUp_step {entries : List (String × Node)}
    (hdir : at? here fs.root = some (.directory entries)) {step : String} (hdot : ¬step = ".")
    (hdots : ¬step = "..") (hshort : ¬longestName < step.utf8ByteSize) {node : Node}
    (hstep : entries.lookup step = some node) (hnode : ∀ target, node ≠ .link target) :
    fs.lookUp (fuel + 1) links here (step :: more) = fs.lookUp fuel links (here ++ [step]) more := by
  rw [FileSystem.lookUp, hdir]
  simp only [if_neg hdot, if_neg hdots, if_neg hshort, hstep]

theorem lookUp_link {entries : List (String × Node)}
    (hdir : at? here fs.root = some (.directory entries)) {step : String} (hdot : ¬step = ".")
    (hdots : ¬step = "..") (hshort : ¬longestName < step.utf8ByteSize) {target : String}
    (hstep : entries.lookup step = some (.link target)) (htarget : ¬target.isEmpty = true) :
    fs.lookUp (fuel + 1) (links + 1) here (step :: more) =
      fs.lookUp fuel links (origin here target) (steps target ++ more) := by
  rw [FileSystem.lookUp, hdir]
  simp only [if_neg hdot, if_neg hdots, if_neg hshort, hstep, if_neg htarget]

/-- Where a path leads there is something that is no link, or there is room for a file. -/
def Stands (root : Node) : Place → Prop
  | .found place => ∃ node, at? place root = some node ∧ ∀ target, node ≠ .link target
  | .vacant place => CanHold root place

/-- Where the last step was taken, something has to be there already. -/
theorem stands_of_lookUp {steps : List String} (h : fs.lookUp fuel links here steps = .ok p)
    (hhere : steps = [] → Stands fs.root (.found here)) : Stands fs.root p := by
  fun_induction FileSystem.lookUp fs fuel links here steps with
  -- no steps are left
  | case1 _ _ here =>
    cases h
    exact hhere rfl
  -- `.` and `..`
  | case3 fuel links here more entries hdir ih => exact ih h fun _ => ⟨_, hdir, nofun⟩
  | case4 fuel links here more entries hdir _ ih =>
    obtain ⟨_, habove⟩ := at?_dropLast hdir
    exact ih h fun _ => ⟨_, habove, nofun⟩
  -- the last name is free
  | case6 fuel links here step more entries hdir _ _ _ hnone _ =>
    cases h
    exact Node.canHold_of_lookup_eq_none hdir hnone
  -- a link, and anything else that is there
  | case10 fuel here step more entries hdir _ _ _ target hlink links htarget ih =>
    refine ih h fun hnil => absurd (List.append_eq_nil_iff.mp hnil).1 ?_
    exact steps_ne_nil (Bool.eq_false_iff.mpr htarget)
  | case11 fuel links here step more entries hdir _ _ _ node hnode hstep ih =>
    refine ih h fun _ => ⟨node, ?_, fun target heq => hnode target heq⟩
    rw [at?_concat hdir, hstep]
  -- the look-up fails
  | case2 | case5 | case7 | case8 | case9 | case12 => cases h

/-! ## Putting in a file -/

/-- The file system with a file at the place. -/
def withFile (fs : FileSystem) (place : List String) (content : ByteArray) : FileSystem :=
  { fs with root := put (.file content) place fs.root }

/-- Each step finds what it found before, or the new file. -/
theorem lookUp_withFile (hplace : CanHold fs.root place) (content : ByteArray)
    {steps : List String} (h : fs.lookUp fuel links here steps = .ok p)
    (hp : p = .found place ∨ p = .vacant place) :
    (fs.withFile place content).lookUp fuel links here steps = .ok (.found place) := by
  have hdirectory {here : List String} {entries : List (String × Node)}
      (hdir : at? here fs.root = some (.directory entries)) :
      ∃ entries', at? here (fs.withFile place content).root = some (.directory entries') ∧
        ∀ name, here ++ [name] ≠ place → LooksLike (entries.lookup name) (entries'.lookup name) :=
    Node.at?_put_directory hplace hdir (.file content)
  have hfile {here : List String} {entries' : List (String × Node)} {step : String}
      (hdir : at? here (fs.withFile place content).root = some (.directory entries'))
      (heq : here ++ [step] = place) : entries'.lookup step = some (.file content) := by
    rw [← at?_concat hdir, heq]
    exact Node.at?_put_self _ _ _
  fun_induction FileSystem.lookUp fs fuel links here steps with
  | case1 _ _ here =>
    cases h
    rcases hp with hp | hp <;> cases hp
    exact lookUp_nil _ _ _ _
  | case3 fuel links here more entries hdir ih =>
    obtain ⟨entries', hdir', -⟩ := hdirectory hdir
    rw [FileSystem.lookUp, hdir']
    simpa using ih h
  | case4 fuel links here more entries hdir hdot ih =>
    obtain ⟨entries', hdir', -⟩ := hdirectory hdir
    rw [FileSystem.lookUp, hdir']
    simpa using ih h
  -- the last name was free and is the one of the file now
  | case6 fuel links here step more entries hdir hdot hdots hshort hnone hmore =>
    obtain ⟨entries', hdir', -⟩ := hdirectory hdir
    cases h
    rcases hp with hp | hp <;> cases hp
    rw [lookUp_step hdir' hdot hdots hshort (hfile hdir' rfl) nofun, List.isEmpty_iff.mp hmore]
    exact lookUp_nil _ _ _ _
  -- no file was put in the place of a link
  | case10 fuel here step more entries hdir hdot hdots hshort target hlink links htarget ih =>
    obtain ⟨entries', hdir', hlike⟩ := hdirectory hdir
    have hne : here ++ [step] ≠ place := by
      rintro rfl
      obtain ⟨_, hnode⟩ := hplace.free _ ((at?_concat hdir step).trans hlink)
      cases hnode
    have hlink' : entries'.lookup step = some (.link target) := by
      have hstep := hlike step hne
      rw [hlink] at hstep
      generalize entries'.lookup step = found at hstep ⊢
      cases hstep
      rfl
    rw [lookUp_link hdir' hdot hdots hshort hlink' htarget]
    exact ih h
  -- what is there may be the old file or a directory on the way to it
  | case11 fuel links here step more entries hdir hdot hdots hshort node hnode hstep ih =>
    obtain ⟨entries', hdir', hlike⟩ := hdirectory hdir
    obtain ⟨node', hstep', hnode'⟩ :
        ∃ node', entries'.lookup step = some node' ∧ ∀ target, node' ≠ .link target := by
      by_cases heq : here ++ [step] = place
      · exact ⟨.file content, hfile hdir' heq, nofun⟩
      · have hlook := hlike step heq
        rw [hstep] at hlook
        generalize entries'.lookup step = found at hlook
        cases hlook with
        | same => exact ⟨node, rfl, fun target heq => hnode target heq⟩
        | directories below below' => exact ⟨.directory below', rfl, nofun⟩
    rw [lookUp_step hdir' hdot hdots hshort hstep' hnode']
    exact ih h
  | case2 | case5 | case7 | case8 | case9 | case12 => cases h

/-! ## Whole paths -/

theorem locate_eq_ok_iff : fs.locate path = .ok p ↔
    path.toList.contains '\x00' = false ∧ path.isEmpty = false ∧
      path.utf8ByteSize ≤ longestPath ∧
      fs.lookUp ((longestPath + 2) * (mostLinks + 1)) mostLinks (origin fs.workDir path)
        (steps path) = .ok p := by
  rw [locate]
  split
  · rename_i hnul
    exact iff_of_false nofun fun h => absurd (hnul.symm.trans h.1) (by decide)
  · split
    · rename_i hempty
      exact iff_of_false nofun fun h => absurd (hempty.symm.trans h.2.1) (by decide)
    · split
      · rename_i hlong
        exact iff_of_false nofun fun h => absurd hlong (Nat.not_lt.mpr h.2.2.1)
      · rename_i hnul hempty hlong
        rw [Bool.not_eq_true] at hnul hempty
        simp only [hnul, hempty, Nat.not_lt.mp hlong, true_and]

theorem stands_of_locate (h : fs.locate path = .ok p) : Stands fs.root p := by
  obtain ⟨-, hne, -, hlook⟩ := locate_eq_ok_iff.mp h
  exact stands_of_lookUp hlook fun hnil => absurd hnil (steps_ne_nil hne)

theorem locate_withFile (hplace : CanHold fs.root place) (content : ByteArray)
    (h : fs.locate path = .ok p) (hp : p = .found place ∨ p = .vacant place) :
    (fs.withFile place content).locate path = .ok (.found place) := by
  obtain ⟨hnul, hne, hlong, hlook⟩ := locate_eq_ok_iff.mp h
  exact locate_eq_ok_iff.mpr ⟨hnul, hne, hlong, lookUp_withFile hplace content hlook hp⟩

theorem placeToWrite_eq_ok_iff : fs.placeToWrite path = .ok place ↔
    withoutSlash? path = none ∧ (fs.locate path = .ok (.vacant place) ∨
      fs.locate path = .ok (.found place) ∧
        ∀ entries, at? place fs.root ≠ some (.directory entries)) := by
  rw [placeToWrite]
  cases withoutSlash? path with
  | some front =>
    refine iff_of_false (fun h => ?_) (by simp)
    simp only [bind, Except.bind, throw, throwThe, MonadExceptOf.throw] at h
    split at h
    · cases h
    · split at h <;> cases h
  | none =>
    cases fs.locate path with
    | error e => simp [bind, Except.bind]
    | ok p =>
      cases p with
      | vacant place' => simp [bind, Except.bind, pure, Except.pure]
      | found place' =>
        simp only [bind, Except.bind, pure, Except.pure, Except.ok.injEq, reduceCtorEq, false_or,
          Place.found.injEq, true_and]
        constructor
        · intro h
          split at h <;> cases h
          exact ⟨rfl, ‹_›⟩
        · rintro ⟨rfl, hfree⟩
          split
          · exact absurd ‹_› (hfree _)
          · rfl

theorem canHold_of_placeToWrite (h : fs.placeToWrite path = .ok place) :
    CanHold fs.root place := by
  obtain ⟨-, hvacant | ⟨hfound, hfree⟩⟩ := placeToWrite_eq_ok_iff.mp h
  · exact stands_of_locate hvacant
  · obtain ⟨node, hnode, hlink⟩ := stands_of_locate hfound
    cases node with
    | file content => exact Node.canHold_of_file hnode
    | directory entries => exact absurd hnode (hfree entries)
    | link target => exact absurd rfl (hlink target)

theorem write_eq (h : fs.placeToWrite path = .ok place) (content : ByteArray) :
    fs.write path content = .ok (fs.withFile place content) := by
  rw [write, h]
  rfl

theorem locate_withFile_self (h : fs.placeToWrite path = .ok place) (content : ByteArray) :
    (fs.withFile place content).locate path = .ok (.found place) := by
  have hplace := canHold_of_placeToWrite h
  obtain ⟨-, hvacant | ⟨hfound, -⟩⟩ := placeToWrite_eq_ok_iff.mp h
  · exact locate_withFile hplace content hvacant (.inr rfl)
  · exact locate_withFile hplace content hfound (.inl rfl)

/-- The path leads to what was written. -/
theorem disk_withFile (h : fs.placeToWrite path = .ok place) (content : ByteArray) :
    (fs.withFile place content).disk path = .ok (.file (.ok content)) := by
  have hfile : at? place (fs.withFile place content).root = some (.file content) :=
    Node.at?_put_self _ _ _
  rw [disk, locate_withFile_self h content]
  simp only [bind, Except.bind, hfile]
  rfl

theorem readText_withFile (h : fs.placeToWrite path = .ok place) (content : ByteArray) :
    (fs.withFile place content).disk.readText path = textOfBytes content := by
  rw [Disk.readText, disk_withFile h]
  rfl

/-- To write the same again changes nothing. -/
theorem write_withFile (h : fs.placeToWrite path = .ok place) (content : ByteArray) :
    (fs.withFile place content).write path content = .ok (fs.withFile place content) := by
  have hfile : at? place (fs.withFile place content).root = some (.file content) :=
    Node.at?_put_self _ _ _
  have hagain : (fs.withFile place content).placeToWrite path = .ok place := by
    obtain ⟨hslash, -⟩ := placeToWrite_eq_ok_iff.mp h
    refine placeToWrite_eq_ok_iff.mpr ⟨hslash, .inr ⟨locate_withFile_self h content, ?_⟩⟩
    rw [hfile]
    exact nofun
  rw [write_eq hagain, withFile, withFile]
  simp only [Node.put_put]

end FileSystem

end GrowthScan
