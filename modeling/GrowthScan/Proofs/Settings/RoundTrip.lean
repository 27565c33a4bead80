import GrowthScan.Proofs.Analysis.RoundTrip
import GrowthScan.Proofs.FileSystem.Write

/-!
# Settings survive saving

Settings that were read from a text are saved in one way and read back as they were
(`Settings.reloads_save`). Reading is lenient: members may be missing or out of order, and a
ceiling may be spelled in many ways. But it gives no ceilings except those that their labels name
(`Settings.gives_ofSource`), and settings with such ceilings are read from the text that is saved
for them (`Settings.ofText_toText`).
-/

namespace GrowthScan

open Json (Plain)
open Json.Reader (Fills Gives Takes takes_choice takes_orNull_null takes_string)

/-! ## Members -/

theorem Language.takes_id (l : Language) :
    Takes (Json.Source.choice (all.map fun l => (l.id, l))) (.string l.id) l :=
  takes_choice (by cases l <;> decide)

theorem Format.takes_id (f : Format) :
    Takes (Json.Source.choice (all.map fun f => (f.id, f))) (.string f.id) f :=
  takes_choice (by cases f <;> decide)

/-- A ceiling or none. -/
theorem Growth.takes_orNull {g? : Option Growth} (h : ∀ g ∈ g?, g.IsReadable) :
    Takes (Json.Source.orNull ofSource) (g?.elim .null toJson) g? := by
  cases g? with
  | none => exact takes_orNull_null
  | some g => exact (takes_ofSource (h g rfl)).orNull_string

theorem Growth.plain_elim (g? : Option Growth) : Plain (g?.elim .null toJson) := by
  cases g? with
  | none => exact .null
  | some g => exact .string g.label

theorem Json.takes_strings (ss : List String) :
    Takes (Json.Source.list Json.Source.string) (Json.strings ss) ss := by
  refine Takes.list ?_
  rw [List.forall₂_map_left_iff, List.forall₂_same]
  exact fun s _ => takes_string s

namespace Settings

/-! ## Texts -/

/-- The ceilings are named by their labels. -/
structure IsReadable (s : Settings) : Prop where
  maxTime : ∀ g ∈ s.maxTime, g.IsReadable
  maxSpace : ∀ g ∈ s.maxSpace, g.IsReadable

theorem takes_ofSource {s : Settings} (h : s.IsReadable) : Takes ofSource s.toJson s := by
  have hfills : Fills (layout (m := Json.Reader)).fields
      [("default_language", .string s.language.id), ("format", .string s.format.id),
        ("max_time", s.maxTime.elim .null Growth.toJson),
        ("max_space", s.maxSpace.elim .null Growth.toJson), ("ignore", .strings s.ignore)]
      ⟨none, none, none, none, none⟩
      ⟨some s.language, some s.format, some s.maxTime, some s.maxSpace, some s.ignore⟩ := by
    refine .cons rfl rfl ((Language.takes_id _).bind fun _ => rfl) ?_
    refine .cons rfl rfl ((Format.takes_id _).bind fun _ => rfl) ?_
    refine .cons rfl rfl ((Growth.takes_orNull h.maxTime).bind fun _ => rfl) ?_
    refine .cons rfl rfl ((Growth.takes_orNull h.maxSpace).bind fun _ => rfl) ?_
    exact .cons rfl rfl ((Json.takes_strings _).bind fun _ => rfl) (.nil _)
  exact .record hfills rfl

/-- Whatever the members of the text, the ceilings that were met are named by their labels. -/
theorem gives_ofSource : Gives ofSource IsReadable := by
  refine .record (r := layout) (K := fun p => (∀ g? ∈ p.maxTime?, ∀ g ∈ g?, g.IsReadable) ∧
    ∀ g? ∈ p.maxSpace?, ∀ g ∈ g?, g.IsReadable) ⟨nofun, nofun⟩ ?_ ?_
  · refine List.forall_mem_cons.mpr ⟨?language, List.forall_mem_cons.mpr ⟨?format,
      List.forall_mem_cons.mpr ⟨?maxTime, List.forall_mem_cons.mpr ⟨?maxSpace,
        List.forall_mem_singleton.mpr ?ignore⟩⟩⟩⟩ <;>
      rintro p ⟨htime, hspace⟩
    case language | format | ignore => exact .andThen fun _ => .pure ⟨htime, hspace⟩
    case maxTime =>
      exact (Gives.orNull Growth.gives_ofSource).bind fun g? hg =>
        .pure ⟨fun _ h => by cases h; exact hg, hspace⟩
    case maxSpace =>
      exact (Gives.orNull Growth.gives_ofSource).bind fun g? hg =>
        .pure ⟨htime, fun _ h => by cases h; exact hg⟩
  · rintro p s ⟨htime, hspace⟩ hfinish
    cases hfinish
    -- without the member there is no ceiling
    have hgetD {p? : Option (Option Growth)} (h : ∀ g? ∈ p?, ∀ g ∈ g?, g.IsReadable) :
        ∀ g ∈ p?.getD none, g.IsReadable := by
      cases p? with
      | none => exact nofun
      | some g? => exact h g? rfl
    exact ⟨hgetD htime, hgetD hspace⟩

theorem plain_toJson (s : Settings) : Plain s.toJson :=
  .object (List.forall_mem_cons.mpr ⟨.string _, List.forall_mem_cons.mpr ⟨.string _,
    List.forall_mem_cons.mpr ⟨Growth.plain_elim _, List.forall_mem_cons.mpr ⟨Growth.plain_elim _,
      List.forall_mem_singleton.mpr (Json.plain_strings _)⟩⟩⟩⟩)

theorem ofText_toText {s : Settings} (h : s.IsReadable) : ofText s.toText = .ok s := by
  rw [ofText, toText, Json.read_of_takes (takes_ofSource h) (Json.spells_pretty s.plain_toJson)]
  rfl

theorem isReadable_of_ofText {text : List Char} {s : Settings} (h : ofText text = .ok s) :
    s.IsReadable :=
  Json.of_read_eq_ok gives_ofSource (Json.eq_ok_of_mapError h)

/-! ## Files -/

theorem textOfBytes_toUTF8 (s : String) : textOfBytes s.toUTF8 = .ok s.toList := by
  have hread : String.fromUTF8? s.toUTF8 = some s := dif_pos s.isValidUTF8
  rw [textOfBytes, hread]

/-- Where a file may be written, settings that were read from a text are saved, read back as they
were, and saved as the same text again. -/
theorem reloads_save {text : List Char} {s : Settings} (h : ofText text = .ok s)
    {fs : FileSystem} {path : String} {place : List String}
    (hplace : fs.placeToWrite path = .ok place) :
    ∃ fs', s.save fs path = .ok fs' ∧ fs'.disk.readText path = .ok s.toText ∧
      load fs'.disk path = .ok s ∧ s.save fs' path = .ok fs' := by
  have hreadText : (fs.withFile place (String.ofList s.toText).toUTF8).disk.readText path =
      .ok s.toText := by
    rw [FileSystem.readText_withFile hplace, textOfBytes_toUTF8, String.toList_ofList]
  refine ⟨fs.withFile place (String.ofList s.toText).toUTF8, ?_, hreadText, ?_, ?_⟩
  · rw [save, FileSystem.write_eq hplace]
    rfl
  · rw [load, hreadText]
    exact ofText_toText (isReadable_of_ofText h)
  · rw [save, FileSystem.write_withFile hplace]
    rfl

/-- A sparse text is saved through a link to a file that is made by that. -/
theorem reloads_save_link :
    let text := " [\"cpp\", \"json\", \" o(N^007)\"] ".toList
    let s : Settings := ⟨.cpp, .json, some (.polynomial 7), none, usualIgnore⟩
    let work : Node := .directory [("bigo.json", .link "../etc/saved.json")]
    let fs : FileSystem := ⟨.directory [("etc", .directory []), ("work", work)], ["work"]⟩
    ofText text = .ok s ∧ fs.placeToWrite "./bigo.json" = .ok ["etc", "saved.json"] ∧
      ∃ fs', s.save fs "./bigo.json" = .ok fs' ∧
        fs'.disk.readText "./bigo.json" = .ok s.toText ∧ load fs'.disk "./bigo.json" = .ok s ∧
        s.save fs' "./bigo.json" = .ok fs' := by
  intro text s work fs
  have hread : ofText text = .ok s := Json.eq_ok_of_toOption (by decide +kernel)
  have hplace : fs.placeToWrite "./bigo.json" = .ok ["etc", "saved.json"] := by rfl
  exact ⟨hread, hplace, reloads_save hread hplace⟩

end Settings

end GrowthScan
