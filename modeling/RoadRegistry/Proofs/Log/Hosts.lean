import Mathlib.Data.List.Forall2
import RoadRegistry.Log.Hosts
import RoadRegistry.Proofs.Text.Trimming

namespace RoadRegistry

namespace Hosts

structure Between (bootstrap : String) (texts : List String) : Prop where
  ne_nil : texts ≠ []
  comma_free : ∀ text ∈ texts, ',' ∉ text.toList
  joined : ",".intercalate texts = bootstrap

def visible (text : String) : Bool := text.toList.any fun c => !Text.isBlankChar c

def Surrounds (text host : String) : Prop :=
  ∃ before after : String, text = before ++ host ++ after ∧
    ∀ c ∈ before.toList ++ after.toList, Text.isBlankChar c = true

/-- A host that a connection can be made to. -/
structure Clean (host : String) : Prop where
  ne_empty : host ≠ ""
  comma_free : ',' ∉ host.toList
  tight : Text.Tight host.toList

theorem comma_not_mem_of_mem_splitOn {chars part : List Char}
    (member : part ∈ chars.splitOn ',') : ',' ∉ part := by
  induction chars generalizing part with
  | nil =>
    rw [List.splitOn_nil, List.mem_singleton] at member
    exact member ▸ List.not_mem_nil
  | cons c rest ih =>
    rw [List.splitOn_cons_eq_if_modifyHead] at member
    split at member
    · rcases List.mem_cons.mp member with rfl | later
      · exact List.not_mem_nil
      · exact ih later
    · next other =>
      obtain ⟨first, later, cut⟩ := List.exists_cons_of_ne_nil (List.splitOn_ne_nil ',' rest)
      rw [cut, List.modifyHead_cons] at member
      rcases List.mem_cons.mp member with rfl | member
      · have free : ',' ∉ first := ih (cut ▸ List.mem_cons_self)
        rw [List.mem_cons, not_or]
        exact ⟨fun same => other (beq_iff_eq.mpr same.symm), free⟩
      · exact ih (cut ▸ List.mem_cons_of_mem _ member)

theorem between_parts (bootstrap : String) :
    Between bootstrap ((parts bootstrap).map String.ofList) where
  ne_nil := by
    rw [ne_eq, List.map_eq_nil_iff]
    exact List.splitOn_ne_nil ',' _
  comma_free text member := by
    obtain ⟨part, among, rfl⟩ := List.mem_map.mp member
    rw [String.toList_ofList]
    exact comma_not_mem_of_mem_splitOn among
  joined := by
    rw [← String.toList_inj, String.toList_intercalate, List.map_map]
    simp only [Function.comp_def, String.toList_ofList, List.map_id']
    exact List.intercalate_splitOn ','

theorem Between.parts_eq {bootstrap : String} {texts : List String}
    (between : Between bootstrap texts) : parts bootstrap = texts.map String.toList := by
  rw [parts, ← between.joined, String.toList_intercalate]
  refine List.splitOn_intercalate ',' (fun part member => ?_) ?_
  · obtain ⟨text, among, rfl⟩ := List.mem_map.mp member
    exact between.comma_free text among
  · rw [ne_eq, List.map_eq_nil_iff]
    exact between.ne_nil

theorem between_iff {bootstrap : String} {texts : List String} :
    Between bootstrap texts ↔ texts = (parts bootstrap).map String.ofList := by
  constructor
  · intro between
    rw [between.parts_eq, List.map_map]
    simp only [Function.comp_def, String.ofList_toList, List.map_id']
  · rintro rfl
    exact between_parts bootstrap

theorem visible_eq (text : String) : visible text = !(Text.trim text.toList).isEmpty := by
  rw [visible, Text.isEmpty_trim, List.not_all_eq_any_not]

theorem Between.parse_eq {bootstrap : String} {texts : List String}
    (between : Between bootstrap texts) :
    parse bootstrap =
      (texts.filter visible).map fun text => String.ofList (Text.trim text.toList) := by
  rw [parse, between.parts_eq, List.map_map, List.filter_map, List.map_map]
  congr 1
  refine List.filter_congr fun text _ => ?_
  rw [visible_eq]
  rfl

theorem surrounds_trim (text : String) :
    Surrounds text (String.ofList (Text.trim text.toList)) := by
  obtain ⟨before, after, split, blank⟩ := Text.exists_eq_trim text.toList
  refine ⟨String.ofList before, String.ofList after, ?_, ?_⟩
  · rw [← String.toList_inj, String.toList_append, String.toList_append, String.toList_ofList,
      String.toList_ofList, String.toList_ofList]
    exact split
  · rw [String.toList_ofList, String.toList_ofList]
    exact blank

theorem Between.surrounds {bootstrap : String} {texts : List String}
    (between : Between bootstrap texts) :
    List.Forall₂ Surrounds (texts.filter visible) (parse bootstrap) := by
  rw [between.parse_eq, List.forall₂_map_right_iff, List.forall₂_same]
  exact fun text _ => surrounds_trim text

theorem clean_of_mem_parse {bootstrap host : String} (member : host ∈ parse bootstrap) :
    Clean host := by
  rw [(between_parts bootstrap).parse_eq, List.mem_map] at member
  obtain ⟨text, among, rfl⟩ := member
  obtain ⟨written, shown⟩ := List.mem_filter.mp among
  have comma_free := (between_parts bootstrap).comma_free text written
  refine ⟨fun empty => ?_, fun comma => ?_, ?_⟩
  · rw [visible_eq, ← String.toList_ofList (l := Text.trim _), empty] at shown
    cases shown
  · rw [String.toList_ofList] at comma
    exact comma_free (Text.mem_of_mem_trim comma)
  · rw [String.toList_ofList]
    exact Text.trim_tight text.toList

theorem Clean.trim_eq {host : String} (clean : Clean host) :
    String.ofList (Text.trim host.toList) = host := by
  rw [Text.trim_eq_self clean.tight, String.ofList_toList]

theorem Clean.visible {host : String} (clean : Clean host) : visible host = true := by
  rw [visible_eq, Text.trim_eq_self clean.tight, Bool.not_eq_true', List.isEmpty_eq_false_iff]
  exact fun empty => clean.ne_empty (String.toList_eq_nil_iff.mp empty)

theorem parse_intercalate {hosts : List String} (clean : ∀ host ∈ hosts, Clean host) :
    parse (",".intercalate hosts) = hosts := by
  rcases eq_or_ne hosts [] with rfl | ne_nil
  · rfl
  have between : Between (",".intercalate hosts) hosts :=
    ⟨ne_nil, fun host member => (clean host member).comma_free, rfl⟩
  have all_visible : hosts.filter visible = hosts :=
    List.filter_eq_self.mpr fun host member => (clean host member).visible
  rw [between.parse_eq, all_visible,
    List.map_congr_left fun host member => (clean host member).trim_eq, List.map_id']

end Hosts

end RoadRegistry
