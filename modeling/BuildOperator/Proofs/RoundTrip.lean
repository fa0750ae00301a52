import BuildOperator.Api.Client
import BuildOperator.Deployment
import BuildOperator.Proofs.JsonText
import BuildOperator.Proofs.StoredStatus
/-!
# Values read back from what is written

A value of each type is read back from its JSON and from the text of that. What is left out because
it is empty is what a missing member stands for, so no two values are written alike, and a document
that was read is written in a form that is read as the same value. Of the metadata of builds and
deployments, which may be of any type, the same is asked.
-/
namespace BuildOperator
open Json (Plain Ordered Entire fields_nil)

namespace Decode
variable {α : Type}

@[simp] theorem int32_ofInt (n : Int32) : int32 (.ofInt n.toInt) = .ok n := by
  have hlow : (-2147483648 : Int) ≤ n.toInt := n.le_toInt
  have hhigh : n.toInt ≤ 2147483647 := Int.le_of_lt_add_one n.toInt_lt
  have hn : Int32.ofInt n.toInt = n := Int32.ofInt_toInt n
  simp only [int32, integer, Json.ofInt, if_pos (And.intro hlow hhigh)]
  exact congrArg Except.ok hn

theorem strings_strings (l : List String) : strings (.strings l) = .ok l :=
  list_map string_string l

theorem pairwise_ofDictionary {f : α → Json} (d : Dictionary α) :
    (d.entries.map fun e => (e.1, f e.2)).Pairwise fun a b => a.1 < b.1 :=
  List.pairwise_map.mpr d.sorted

theorem dictionary_ofDictionary {f : Decoder α} {g : α → Json} (h : ∀ a, f (g a) = .ok a)
    (d : Dictionary α) : dictionary f (.ofDictionary g d) = .ok d := by
  have hentries := mapM_map (g := fun e : String × α => (e.1, g e.2))
    (f := fun e => do return (e.1, ← f e.2)) (fun e => by rw [h]; rfl) d.entries
  have hsorted := pairwise_ofDictionary (f := g) d
  simp only [dictionary, Json.ofDictionary, Dictionary.ofList_of_sorted hsorted,
    Dictionary.traverse, hentries]
  exact congrArg Except.ok (Dictionary.ofList_entries d)

theorem optional_of_ne_null {f : Decoder α} {x : Json} (h : x ≠ .null) :
    optional f x = some <$> f x := by
  unfold optional
  split
  · exact absurd rfl h
  · rfl

theorem nullable_of_lookup {ms : List (String × Json)} {name : String} {f : Decoder α}
    {g : α → Json} {value : Option α} (hl : ms.lookup name = value.map g)
    (h : ∀ a, f (g a) = .ok a) (hn : ∀ a, g a ≠ .null) : nullable ms name f = .ok value := by
  cases value with
  | none =>
    rw [nullable, present_of_absent _ hl]
    rfl
  | some a =>
    rw [nullable, present_of_lookup _ hl, optional_of_ne_null (hn a), h]
    rfl

end Decode

theorem ordered_int64 {depth : Nat} (n : Int64) : Ordered depth (.ofInt n.toInt) := by
  have hlow : -9223372036854775808 ≤ n.toInt := n.le_toInt
  have hhigh : n.toInt < 9223372036854775808 := n.toInt_lt
  exact .integer hlow (by omega)

theorem ordered_int32 {depth : Nat} (n : Int32) : Ordered depth (.ofInt n.toInt) := by
  have hlow : -2147483648 ≤ n.toInt := n.le_toInt
  have hhigh : n.toInt < 2147483648 := n.toInt_lt
  exact .integer (by omega) (by omega)

theorem Condition.entire_toJson (c : Condition) : Entire 1 outline c.toJson := by
  have hfields := (fields_nil 0).field "type" (.string c.type)
    |>.field "status" (.string c.status.name)
    |>.field "reason" (.string c.reason)
    |>.field "observedGeneration" (ordered_int64 c.observedGeneration)
    |>.field "message" (.string c.message)
    |>.field "lastTransitionTime" (.string c.lastTransitionTime.text)
  exact hfields.entire (by decide) (by decide)

namespace Metadata

theorem entire_toJson (m : Metadata) : Entire 2 outline m.toJson := by
  have hdictionary (d : Dictionary String) : Ordered 1 (.ofDictionary .string d) := by
    refine .object (Decode.pairwise_ofDictionary d) ?_
    intro e he
    obtain ⟨entry, -, rfl⟩ := List.mem_map.mp he
    exact .string _
  have hstrings (l : List String) : Ordered 1 (.strings l) := by
    refine .array ?_
    intro x hx
    obtain ⟨s, -, rfl⟩ := List.mem_map.mp hx
    exact .string s
  have hfields := (fields_nil 1).field? "uid" m.uid .string
    |>.field? "resourceVersion" m.resourceVersion .string
    |>.field? "namespace" m.space .string
    |>.field? "name" m.name .string
    |>.field? "labels" m.labels hdictionary
    |>.field? "generation" m.generation ordered_int64
    |>.field? "generateName" m.generateName .string
    |>.field? "finalizers" m.finalizers hstrings
    |>.field? "annotations" m.annotations hdictionary
  exact hfields.entire (by decide) (by decide)

theorem ofJson_toJson (m : Metadata) : ofJson m.toJson = .ok m := by
  have hdictionary := Decode.dictionary_ofDictionary Decode.string_string
  have hannotations : Decode.nullable m.toJson.members "annotations"
      (Decode.dictionary Decode.string) = .ok m.annotations :=
    Decode.nullable_of_lookup (by simp [toJson]) hdictionary nofun
  have hfinalizers : Decode.nullable m.toJson.members "finalizers" Decode.strings =
      .ok m.finalizers :=
    Decode.nullable_of_lookup (by simp [toJson]) Decode.strings_strings nofun
  have hgenerateName : Decode.nullable m.toJson.members "generateName" Decode.string =
      .ok m.generateName :=
    Decode.nullable_of_lookup (by simp [toJson]) Decode.string_string nofun
  have hgeneration : Decode.nullable m.toJson.members "generation" Decode.int64 =
      .ok m.generation :=
    Decode.nullable_of_lookup (by simp [toJson]) Decode.int64_ofInt nofun
  have hlabels : Decode.nullable m.toJson.members "labels" (Decode.dictionary Decode.string) =
      .ok m.labels :=
    Decode.nullable_of_lookup (by simp [toJson]) hdictionary nofun
  have hname : Decode.nullable m.toJson.members "name" Decode.string = .ok m.name :=
    Decode.nullable_of_lookup (by simp [toJson]) Decode.string_string nofun
  have hspace : Decode.nullable m.toJson.members "namespace" Decode.string = .ok m.space :=
    Decode.nullable_of_lookup (by simp [toJson]) Decode.string_string nofun
  have hversion : Decode.nullable m.toJson.members "resourceVersion" Decode.string =
      .ok m.resourceVersion :=
    Decode.nullable_of_lookup (by simp [toJson]) Decode.string_string nofun
  have huid : Decode.nullable m.toJson.members "uid" Decode.string = .ok m.uid :=
    Decode.nullable_of_lookup (by simp [toJson]) Decode.string_string nofun
  show ofMembers m.toJson.members = .ok m
  simp only [ofMembers, hannotations, hfinalizers, hgenerateName, hgeneration, hlabels, hname,
    hspace, hversion, huid]
  rfl

end Metadata

/-- What is asked of a type of metadata: its values may stand in the JSON of an object, and are read
back from that and from the part of it that is read of a text. -/
structure MetadataFormat.Faithful (μ : Type) [MetadataFormat μ] : Prop where
  ordered (m : μ) : Ordered (Json.maxDepth - 1) (toJson m)
  value (m : μ) : ofJson (toJson m) = .ok m
  part (m : μ) : ofJson (Json.part (outline μ) (toJson m)) = .ok m

theorem Metadata.faithful : MetadataFormat.Faithful Metadata where
  ordered m := m.entire_toJson.ordered.mono (by decide)
  value m := m.ofJson_toJson
  part m := (congrArg Metadata.ofJson m.entire_toJson.part_eq).trans m.ofJson_toJson

namespace BuildSpec

theorem entire_toJson (s : BuildSpec) : Entire 1 outline s.toJson := by
  have hfields := (fields_nil 0).field? "revision" s.revision .string
    |>.field "project" (.string s.project)
    |>.field "component" (.string s.component)
    |>.field "autoDeploy" (.bool s.autoDeploy)
  exact hfields.entire (by decide) (by decide)

theorem ofJson_toJson (s : BuildSpec) : ofJson s.toJson = .ok s := by
  have hauto : s.toJson.members.lookup "autoDeploy" = some (.bool s.autoDeploy) := by simp [toJson]
  have hcomponent : s.toJson.members.lookup "component" = some (.string s.component) := by
    simp [toJson]
  have hproject : s.toJson.members.lookup "project" = some (.string s.project) := by simp [toJson]
  have hrevision : Decode.nullable s.toJson.members "revision" Decode.string = .ok s.revision :=
    Decode.nullable_of_lookup (by simp [toJson]) Decode.string_string nofun
  show ofMembers s.toJson.members = .ok s
  simp only [ofMembers, Decode.present_of_lookup _ hauto, Decode.present_of_lookup _ hcomponent,
    Decode.present_of_lookup _ hproject, hrevision]
  rfl

end BuildSpec

namespace DeploymentSpec

theorem entire_toJson (s : DeploymentSpec) : Entire 1 outline s.toJson := by
  have hfields := fields_nil 0
    |>.field? "revisionHistoryLimit" s.revisionHistoryLimit ordered_int32
    |>.field "deploymentArtifactRef" (.string s.deploymentArtifactRef)
  exact hfields.entire (by decide) (by decide)

theorem ofJson_toJson (s : DeploymentSpec) : ofJson s.toJson = .ok s := by
  have hartifact : s.toJson.members.lookup "deploymentArtifactRef" =
      some (.string s.deploymentArtifactRef) := by
    simp [toJson]
  have hlimit : Decode.nullable s.toJson.members "revisionHistoryLimit" Decode.int32 =
      .ok s.revisionHistoryLimit :=
    Decode.nullable_of_lookup (by simp [toJson]) Decode.int32_ofInt nofun
  show ofMembers s.toJson.members = .ok s
  simp only [ofMembers, Decode.present_of_lookup _ hartifact, hlimit]
  rfl

end DeploymentSpec

theorem ImageStatus.entire_toJson (i : ImageStatus) : Entire 1 outline i.toJson := by
  have hfields := (fields_nil 0).field? "image"
    (if i.image = "" then none else some i.image) .string
  exact hfields.entire (by decide) (by decide)

theorem ImageStatus.ofJson_toJson (i : ImageStatus) : ofJson i.toJson = .ok i := by
  obtain ⟨is, he, -, hi⟩ := i.toJson_eq
  rw [he]
  exact ofJson_of_lookup hi

namespace BuildStatus

theorem ordered_toJson (s : BuildStatus) : Ordered 3 s.toJson := by
  have hconditions (cs : Conditions) : Ordered 2 cs.toJson := by
    refine .array ?_
    intro x hx
    obtain ⟨c, -, rfl⟩ := List.mem_map.mp hx
    exact c.entire_toJson.ordered
  have himage : Ordered 2 s.imageStatus.toJson :=
    s.imageStatus.entire_toJson.ordered.mono (by decide)
  have hfields := (fields_nil 2).field "imageStatus" himage
    |>.field? "conditions" (if s.conditions.isEmpty then none else some s.conditions) hconditions
  exact hfields.ordered (by decide)

theorem ofJson_toJson (s : BuildStatus) : ofJson s.toJson = .ok s := s.writtenIn_toJson.ofJson_eq

theorem ofJson_part (s : BuildStatus) : ofJson (Json.part outline s.toJson) = .ok s := by
  -- All of the conditions and of the image is asked for.
  have hconditions : Json.part (.items Condition.outline) s.conditions.toJson =
      s.conditions.toJson := by
    have hitems : (s.conditions.map Condition.toJson).map (Json.part Condition.outline) =
        s.conditions.map Condition.toJson := by
      rw [List.map_map]
      exact List.map_congr_left fun c _ => c.entire_toJson.part_eq
    show Json.array (Json.partItems _ _) = _
    rw [Json.partItems_eq_map, hitems]
    rfl
  obtain ⟨ss, he, -, hc, hi⟩ := s.toJson_eq
  obtain ⟨is, hs, -, hm⟩ := s.imageStatus.toJson_eq
  rw [he]
  refine WrittenIn.ofJson_eq ⟨?_, is, ?_, hm⟩
  · rw [Json.lookup_partMembers, hc]
    unfold writtenConditions?
    by_cases h : s.conditions = []
    · simp [h]
    · simp [h, hconditions]
  · rw [Json.lookup_partMembers, hi]
    have himage := s.imageStatus.entire_toJson.part_eq
    rw [hs] at himage
    simp [List.lookup_cons, hs, himage]

end BuildStatus

section
variable {μ : Type} [MetadataFormat μ]

namespace Build
variable (b : Build μ)

theorem ordered_toJson (h : MetadataFormat.Faithful μ) : Ordered Json.maxDepth b.toJson := by
  have hstatus (s : BuildStatus) : Ordered (Json.maxDepth - 1) s.toJson :=
    s.ordered_toJson.mono (by decide)
  have hfields := fields_nil (Json.maxDepth - 1)
    |>.field? "status" b.status hstatus
    |>.field "spec" (b.spec.entire_toJson.ordered.mono (by decide))
    |>.field "metadata" (h.ordered b.metadata)
    |>.field "kind" (.string "Build")
    |>.field "apiVersion" (.string apiVersion)
  exact hfields.ordered (by decide)

/-- A build is read from three members, whatever else there is. -/
theorem ofJson_of_members {doc : List (String × Json)} {x : Json} {f : BuildStatus → Json}
    (hx : MetadataFormat.ofJson x = .ok b.metadata)
    (hf : ∀ s, BuildStatus.ofJson (f s) = .ok s ∧ f s ≠ .null)
    (hm : doc.lookup "metadata" = some x)
    (hs : doc.lookup "spec" = some b.spec.toJson)
    (ht : doc.lookup "status" = b.status.map f) : ofJson (.object doc) = .ok b := by
  refine ofJson_eq_ok_iff.mpr ⟨?_, ?_, ?_⟩
  · rw [Decode.present_of_lookup _ hm, hx]
    rfl
  · rw [Decode.present_of_lookup _ hs, BuildSpec.ofJson_toJson]
    rfl
  · exact Decode.nullable_of_lookup ht (fun s => (hf s).1) fun s => (hf s).2

theorem lookup_metadata :
    b.toJson.members.lookup "metadata" = some (MetadataFormat.toJson b.metadata) := by
  simp [toJson]

theorem lookup_spec : b.toJson.members.lookup "spec" = some b.spec.toJson := by
  simp [toJson]

theorem lookup_status : b.toJson.members.lookup "status" = b.status.map BuildStatus.toJson := by
  simp [toJson]

theorem ofJson_toJson (h : MetadataFormat.Faithful μ) : ofJson b.toJson = .ok b := by
  have hstatus (s : BuildStatus) : BuildStatus.ofJson s.toJson = .ok s ∧ s.toJson ≠ .null :=
    ⟨s.ofJson_toJson, nofun⟩
  exact b.ofJson_of_members (h.value b.metadata) hstatus b.lookup_metadata b.lookup_spec
    b.lookup_status

theorem ofJson_part (h : MetadataFormat.Faithful μ) :
    ofJson (Json.part (outline μ) b.toJson) = .ok b := by
  have hstatus (s : BuildStatus) : BuildStatus.ofJson (Json.part BuildStatus.outline s.toJson) =
      .ok s ∧ Json.part BuildStatus.outline s.toJson ≠ .null :=
    ⟨s.ofJson_part, nofun⟩
  show ofJson (.object (Json.partMembers _ b.toJson.members)) = .ok b
  apply b.ofJson_of_members (h.part b.metadata) hstatus
  · rw [Json.lookup_partMembers, b.lookup_metadata]
    simp
  · rw [Json.lookup_partMembers, b.lookup_spec]
    simp [List.lookup_cons, b.spec.entire_toJson.part_eq]
  · rw [Json.lookup_partMembers, b.lookup_status]
    cases b.status <;> simp [List.lookup_cons]

end Build

namespace Deployment
variable (d : Deployment μ)

theorem ordered_toJson (h : MetadataFormat.Faithful μ) : Ordered Json.maxDepth d.toJson := by
  have hfields := fields_nil (Json.maxDepth - 1)
    |>.field "spec" (d.spec.entire_toJson.ordered.mono (by decide))
    |>.field "metadata" (h.ordered d.metadata)
    |>.field "kind" (.string "Deployment")
    |>.field "apiVersion" (.string apiVersion)
  exact hfields.ordered (by decide)

theorem ofJson_of_members {doc : List (String × Json)} {x : Json}
    (hx : MetadataFormat.ofJson x = .ok d.metadata)
    (hm : doc.lookup "metadata" = some x)
    (hs : doc.lookup "spec" = some d.spec.toJson) : ofJson (.object doc) = .ok d := by
  show ofMembers doc = .ok d
  simp only [ofMembers, Decode.present_of_lookup _ hm, Decode.present_of_lookup _ hs, hx,
    DeploymentSpec.ofJson_toJson]
  rfl

theorem lookup_metadata :
    d.toJson.members.lookup "metadata" = some (MetadataFormat.toJson d.metadata) := by
  simp [toJson]

theorem lookup_spec : d.toJson.members.lookup "spec" = some d.spec.toJson := by
  simp [toJson]

theorem ofJson_toJson (h : MetadataFormat.Faithful μ) : ofJson d.toJson = .ok d :=
  d.ofJson_of_members (h.value d.metadata) d.lookup_metadata d.lookup_spec

theorem ofJson_part (h : MetadataFormat.Faithful μ) :
    ofJson (Json.part (outline μ) d.toJson) = .ok d := by
  show ofJson (.object (Json.partMembers _ d.toJson.members)) = .ok d
  apply d.ofJson_of_members (h.part d.metadata)
  · rw [Json.lookup_partMembers, d.lookup_metadata]
    simp
  · rw [Json.lookup_partMembers, d.lookup_spec]
    simp [List.lookup_cons, d.spec.entire_toJson.part_eq]

end Deployment

end

section
variable {α : Type} {depth : Nat} {outline : Json.Outline} {toJson : α → Json} {ofJson : Decoder α}

/-- A body is read by what its outline asks for, in whatever order its members are written. -/
theorem Api.readBody_text {x : Json} (hx : Plain depth x) (hd : depth ≤ Json.maxDepth) :
    readBody outline ofJson x.text =
      (ofJson (Json.part outline x.canonical)).mapError fun _ => .unreadable := by
  have hread : Json.excerptOfText? outline x.text = some (Json.part outline x) := by
    simp only [Json.excerptOfText?, hx.ofText?_text, Option.bind_eq_bind, Option.bind_some]
    exact Json.Plain.excerpt?_form hx hd outline
  simp only [readBody, hread, Json.Plain.canonical_part hx]

/-- Every value is read back from its JSON and any text of that, and no two are written alike. -/
structure RoundTrips (outline : Json.Outline) (toJson : α → Json) (ofJson : Decoder α) : Prop where
  value (a : α) : ofJson (toJson a) = .ok a
  written (a : α) : Json.ofText? (toJson a).text = some (toJson a)
  text (a : α) : Api.readBody outline ofJson (toJson a).text = .ok a
  /-- Objects may have their members in any order. -/
  reordered {a : α} {x : Json} (hx : Plain Json.maxDepth x) (hc : x.canonical = toJson a) :
    Api.readBody outline ofJson x.text = .ok a
  apart {a b : α} (h : (toJson a).text = (toJson b).text) : a = b
  /-- What was read from any document is written so that it is read as the same value, which has the
  same text. -/
  document {x : Json} {a : α} (h : ofJson x = .ok a) :
    ∃ b, ofJson (toJson a) = .ok b ∧ b = a ∧ (toJson b).text = (toJson a).text
  body {s : String} {a : α} (h : Api.readBody outline ofJson s = .ok a) :
    ∃ b, Api.readBody outline ofJson (toJson a).text = .ok b ∧ b = a ∧
      (toJson b).text = (toJson a).text

theorem roundTrips_of_ordered (ho : ∀ a, Ordered depth (toJson a)) (hd : depth ≤ Json.maxDepth)
    (hv : ∀ a, ofJson (toJson a) = .ok a)
    (hp : ∀ a, ofJson (Json.part outline (toJson a)) = .ok a) :
    RoundTrips outline toJson ofJson := by
  have hordered (a : α) : Ordered Json.maxDepth (toJson a) := (ho a).mono hd
  have hreordered {a : α} {x : Json} (hx : Plain Json.maxDepth x) (hc : x.canonical = toJson a) :
      Api.readBody outline ofJson x.text = .ok a := by
    rw [Api.readBody_text hx (Nat.le_refl _), hc, hp]
    rfl
  have htext (a : α) : Api.readBody outline ofJson (toJson a).text = .ok a :=
    hreordered (Json.Ordered.plain (hordered a)) (Json.Ordered.canonical_eq (hordered a))
  refine ⟨hv, fun a => ?_, htext, hreordered, ?_, fun _ => ⟨_, hv _, rfl, rfl⟩,
    fun _ => ⟨_, htext _, rfl, rfl⟩⟩
  · simp only [Json.ofText?, (hordered a).ofText?_text, Option.bind_eq_bind, Option.bind_some]
    exact (hordered a).value?_form
  · intro a b h
    have hb := htext b
    rw [← h, htext a] at hb
    exact Except.ok.inj hb

theorem roundTrips_of_entire (h : ∀ a, Entire depth outline (toJson a)) (hd : depth ≤ Json.maxDepth)
    (hv : ∀ a, ofJson (toJson a) = .ok a) : RoundTrips outline toJson ofJson := by
  refine roundTrips_of_ordered (fun a => (h a).ordered) hd hv fun a => ?_
  rw [(h a).part_eq]
  exact hv a

end

theorem BuildSpec.roundTrips : RoundTrips outline toJson ofJson :=
  roundTrips_of_entire entire_toJson (by decide) ofJson_toJson

theorem BuildStatus.roundTrips : RoundTrips outline toJson ofJson :=
  roundTrips_of_ordered ordered_toJson (by decide) ofJson_toJson ofJson_part

theorem Condition.roundTrips : RoundTrips outline toJson ofJson :=
  roundTrips_of_entire entire_toJson (by decide) ofJson_toJson

theorem ImageStatus.roundTrips : RoundTrips outline toJson ofJson :=
  roundTrips_of_entire entire_toJson (by decide) ofJson_toJson

theorem DeploymentSpec.roundTrips : RoundTrips outline toJson ofJson :=
  roundTrips_of_entire entire_toJson (by decide) ofJson_toJson

section
variable {μ : Type} [MetadataFormat μ]

theorem Build.roundTrips (h : MetadataFormat.Faithful μ) :
    RoundTrips (Build.outline μ) (Build.toJson : Build μ → Json) ofJson :=
  roundTrips_of_ordered (·.ordered_toJson h) (Nat.le_refl _) (·.ofJson_toJson h) (·.ofJson_part h)

theorem Deployment.roundTrips (h : MetadataFormat.Faithful μ) :
    RoundTrips (Deployment.outline μ) (Deployment.toJson : Deployment μ → Json) ofJson :=
  roundTrips_of_ordered (·.ordered_toJson h) (Nat.le_refl _) (·.ofJson_toJson h) (·.ofJson_part h)

/-- Every type of the cluster's own objects and of their parts is read as it is written, with any
metadata of which this holds; what is absent is not written like anything that is there, an empty
value included. -/
theorem documents_roundTrip (h : MetadataFormat.Faithful μ) :
    RoundTrips (Build.outline μ) (Build.toJson : Build μ → Json) Build.ofJson ∧
    RoundTrips BuildSpec.outline BuildSpec.toJson BuildSpec.ofJson ∧
    RoundTrips BuildStatus.outline BuildStatus.toJson BuildStatus.ofJson ∧
    RoundTrips Condition.outline Condition.toJson Condition.ofJson ∧
    RoundTrips ImageStatus.outline ImageStatus.toJson ImageStatus.ofJson ∧
    RoundTrips (Deployment.outline μ) (Deployment.toJson : Deployment μ → Json)
      Deployment.ofJson ∧
    RoundTrips DeploymentSpec.outline DeploymentSpec.toJson DeploymentSpec.ofJson ∧
    (∀ (b : Build μ) (status : BuildStatus), { b with status := none }.toJson.text ≠
      { b with status := some status }.toJson.text) ∧
    (∀ (s : BuildSpec) (revision : String), { s with revision := none }.toJson.text ≠
      { s with revision := some revision }.toJson.text) ∧
    ∀ (s : DeploymentSpec) (limit : Int32), { s with revisionHistoryLimit := none }.toJson.text ≠
      { s with revisionHistoryLimit := some limit }.toJson.text := by
  refine ⟨Build.roundTrips h, BuildSpec.roundTrips, BuildStatus.roundTrips, Condition.roundTrips,
    ImageStatus.roundTrips, Deployment.roundTrips h, DeploymentSpec.roundTrips, ?_, ?_, ?_⟩
  · intro b status ht
    have he := (Build.roundTrips h).apart ht
    cases he
  · intro s revision ht
    have he := BuildSpec.roundTrips.apart ht
    cases he
  · intro s limit ht
    have he := DeploymentSpec.roundTrips.apart ht
    cases he

/-- The metadata that the operator makes use of will do. -/
theorem documents_roundTrip_of_metadata : MetadataFormat.Faithful Metadata ∧
    RoundTrips Build.outline (Build.toJson : Build → Json) Build.ofJson ∧
    RoundTrips Deployment.outline (Deployment.toJson : Deployment → Json) Deployment.ofJson ∧
    ∀ (b : Build) (status : BuildStatus), { b with status := none }.toJson.text ≠
      { b with status := some status }.toJson.text := by
  obtain ⟨hbuild, -, -, -, -, hdeployment, -, hstatus, -⟩ := documents_roundTrip Metadata.faithful
  exact ⟨Metadata.faithful, hbuild, hdeployment, hstatus⟩

end

end BuildOperator
