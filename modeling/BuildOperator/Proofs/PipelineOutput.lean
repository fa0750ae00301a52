import BuildOperator.Proofs.Dictionary
import BuildOperator.Proofs.Mark
import BuildOperator.Proofs.RoundTrip
/-!
# Outputs of pipelines

An output is the same whether its parameters are set one after the other, taken from a list or read
from the members of an object: of parameters with one name the last counts, also where it is null.
The last parameter that is to name an image therefore decides how a pipeline ends.
-/
namespace BuildOperator

theorem Decode.optional_ofOption {α : Type} {f : Decoder α} {g : α → Json}
    (h : ∀ a, f (g a) = .ok a) (hn : ∀ a, g a ≠ .null) (value : Option α) :
    optional f (.ofOption g value) = .ok value := by
  cases value with
  | none => rfl
  | some a =>
    rw [Json.ofOption, optional_of_ne_null (hn a), h]
    rfl

/-- The members of an object may stand in any order and more than once. -/
theorem Decode.dictionary_members {α : Type} {f : Decoder α} {g : α → Json}
    (h : ∀ a, f (g a) = .ok a) (l : List (String × α)) :
    dictionary f (.object (l.map fun e => (e.1, g e.2))) = .ok (.ofList l) := by
  have hd := dictionary_ofDictionary h (Dictionary.ofList l)
  rw [Json.ofDictionary] at hd
  rw [dictionary, Dictionary.ofList_map]
  exact hd

namespace PipelineOutput

variable {ps : List (String × Option String)} {image : String}

theorem foldl_parameter (ps : List (String × Option String)) :
    ps.foldl (fun o p => o.parameter p.1 p.2) empty = ofList ps := by
  have hfold : ps.foldl (fun o p => o.parameter p.1 p.2) empty =
      ⟨ps.foldl (fun d p => d.insert p.1 p.2) .empty⟩ :=
    List.foldl_hom PipelineOutput.mk fun _ _ => rfl
  rw [hfold, Dictionary.foldl_insert]
  rfl

theorem get?_ofList (ps : List (String × Option String)) (name : String) :
    (ofList ps).get? name = (Dictionary.lastOf? ps name).join :=
  congrArg Option.join (Dictionary.get?_ofList ps name)

theorem image?_ofList_eq_some_iff : (ofList ps).image? = some image ↔
    Dictionary.lastOf? ps imageParameter = some (some image) ∧ image ≠ "" := by
  rw [image?, get?_ofList, Option.filter_eq_some_iff, Option.join_eq_some_iff, decide_eq_true_iff]

theorem ofJson_members (ps : List (String × Option String)) :
    ofJson (.object (ps.map fun p => (p.1, .ofOption .string p.2))) = .ok (ofList ps) := by
  have hvalue := Decode.optional_ofOption Decode.string_string nofun
  rw [ofJson, Decode.dictionary_members hvalue]
  rfl

theorem ofJson_toJson (o : PipelineOutput) : ofJson o.toJson = .ok o := by
  have ho : ofList o.parameters.entries = o := congrArg mk (Dictionary.ofList_entries o.parameters)
  rw [toJson, Json.ofDictionary, ofJson_members, ho]

theorem ordered_toJson (o : PipelineOutput) : Json.Ordered 1 o.toJson := by
  refine .object (Decode.pairwise_ofDictionary o.parameters) ?_
  intro m hm
  obtain ⟨⟨name, value⟩, -, rfl⟩ := List.mem_map.mp hm
  cases value with
  | none => exact .null
  | some s => exact .string s

theorem roundTrips : RoundTrips .whole toJson ofJson :=
  roundTrips_of_ordered ordered_toJson (by decide) ofJson_toJson fun o => by
    rw [Json.part_whole, ofJson_toJson]

theorem recordSucceeded_of_unfinished {b : Build} (hf : b.finished? = none) (o : PipelineOutput)
    (now : Timestamp) :
    (b.recordSucceeded o now).2 = .recorded ∧
    ((b.recordSucceeded o now).1.standing? .completed = some .holds ↔
      ∃ image, o.image? = some image) ∧
    ∀ image, o.image? = some image → (b.recordSucceeded o now).1.image? = some image := by
  cases hi : o.image? with
  | none =>
    have hr : b.recordSucceeded o now = (b.record .completed .fails .imageMissing now, .recorded) :=
      Build.recordEvent_imageMissing now now hf hi
    rw [hr]
    exact ⟨rfl, by simp, by simp⟩
  | some image =>
    have hr : b.recordSucceeded o now =
        ((b.recordImage image).record .completed .holds .completed now, .recorded) :=
      Build.recordEvent_image now now hf hi
    rw [hr]
    refine ⟨rfl, by simp, ?_⟩
    rintro _ ⟨⟩
    exact Build.image?_eq_some_iff.mpr ⟨rfl, image?_ne_empty hi⟩

/-- Parameters give one output, whether they are set one after the other, taken from a list or read
as the members of an object. The output has the last value of each name, and is read back from its
JSON and from the text of that. A pipeline that ends with it is completed exactly if the last
parameter that names an image names one, and that is the image then. -/
theorem output_of_parameters (ps : List (String × Option String)) :
    ps.foldl (fun o p => o.parameter p.1 p.2) empty = ofList ps ∧
    ofJson (.object (ps.map fun p => (p.1, .ofOption .string p.2))) = .ok (ofList ps) ∧
    (∀ name, (ofList ps).get? name = (Dictionary.lastOf? ps name).join) ∧
    ofJson (ofList ps).toJson = .ok (ofList ps) ∧
    Json.ofText? (ofList ps).toJson.text = some (ofList ps).toJson ∧
    ∀ (b : Build) (now : Timestamp), b.finished? = none →
      (b.recordSucceeded (ofList ps) now).2 = .recorded ∧
      ((b.recordSucceeded (ofList ps) now).1.standing? .completed = some .holds ↔
        ∃ image, Dictionary.lastOf? ps "image" = some (some image) ∧ image ≠ "") ∧
      ∀ image, Dictionary.lastOf? ps "image" = some (some image) → image ≠ "" →
        (b.recordSucceeded (ofList ps) now).1.image? = some image := by
  refine ⟨foldl_parameter ps, ofJson_members ps, get?_ofList ps, ofJson_toJson _,
    roundTrips.written _, fun b now hf => ?_⟩
  obtain ⟨hr, hc, hi⟩ := recordSucceeded_of_unfinished hf (ofList ps) now
  simp only [image?_ofList_eq_some_iff] at hc hi
  exact ⟨hr, hc, fun image hl hne => hi image ⟨hl, hne⟩⟩

/-- An image that is named, taken back and named again. -/
def retagged : List (String × Option String) :=
  [("image", some "registry/app:1"), ("digest", none), ("image", none),
    ("image", some "registry/app:2")]

theorem output_of_retagged : Build.checkout.finished? = none ∧
    Dictionary.lastOf? retagged "image" = some (some "registry/app:2") ∧ "registry/app:2" ≠ "" ∧
    (Build.checkout.recordSucceeded (ofList retagged) .epoch).1.image? = some "registry/app:2" ∧
    Dictionary.lastOf? (retagged.take 3) "image" = some none ∧
    (Build.checkout.recordSucceeded (ofList (retagged.take 3)) .epoch).1.standing? .completed ≠
      some .holds := by
  have hf : Build.checkout.finished? = none := rfl
  have hl : Dictionary.lastOf? retagged "image" = some (some "registry/app:2") := by decide
  have hn : Dictionary.lastOf? (retagged.take 3) "image" = some none := by decide
  obtain ⟨_, _, _, _, _, hnamed⟩ := output_of_parameters retagged
  obtain ⟨_, _, _, _, _, htaken⟩ := output_of_parameters (retagged.take 3)
  refine ⟨hf, hl, by decide, (hnamed _ .epoch hf).2.2 _ hl (by decide), hn, fun hc => ?_⟩
  obtain ⟨image, hi, _⟩ := (htaken _ .epoch hf).2.1.mp hc
  rw [hn] at hi
  cases hi

end PipelineOutput
end BuildOperator
