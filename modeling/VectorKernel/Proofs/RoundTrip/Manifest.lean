import VectorKernel.Kernel.Manifest
import VectorKernel.Proofs.RoundTrip.Value

/-!
# Manifests read back

A manifest is a record of texts and names, so its form is made of texts alone and
`Json.read_pretty` applies to it. What is left is that records are read from their
members: each name of an enumeration stands for one of its members, and an
optional text is absent exactly when its member is.
-/

namespace VectorKernel

/-- A language is found by its name. -/
theorem Language.ofExactName?_name (language : Language) : ofExactName? language.name = some language := by
  cases language <;> rfl

/-- An architecture is found by its name. -/
theorem Architecture.ofExactName?_name (architecture : Architecture) :
    ofExactName? architecture.name = some architecture := by
  cases architecture <;> rfl

namespace Json

/-- A member that may be missing is a text if it is there. -/
theorem textual_optionalMember (key : String) (text : Option String) :
    ∀ member ∈ optionalMember key text, Textual member.2 := by
  intro member found
  cases text with
  | none => cases found
  | some text =>
    obtain rfl := List.mem_singleton.mp found
    exact .string text

end Json

namespace ManifestParameter

/-- The form of a parameter is made of texts. -/
theorem textual_toJson (parameter : ManifestParameter) : Json.Textual parameter.toJson := by
  refine .object _ fun member found => ?_
  rcases List.mem_append.mp found with fixed | optional
  · simp only [List.mem_cons, List.not_mem_nil, or_false] at fixed
    rcases fixed with rfl | rfl | rfl <;> exact .string _
  · exact Json.textual_optionalMember _ _ member optional

/-- A parameter is read back from its members, also where some of them are missing. -/
theorem ofJson?_toJson (parameter : ManifestParameter) : ofJson? parameter.toJson = some parameter := by
  obtain ⟨name, type, direction, dimension⟩ := parameter
  cases direction <;> cases dimension <;> rfl

end ManifestParameter

namespace Manifest

/-- The form of a manifest is made of texts, whatever its fields hold. -/
theorem textual_toJson (manifest : Manifest) : Json.Textual manifest.toJson := by
  refine .object _ fun member found => ?_
  rcases List.mem_append.mp found with fixed | optional
  · simp only [List.mem_cons, List.not_mem_nil, or_false] at fixed
    rcases fixed with rfl | rfl | rfl | rfl | rfl | rfl
    case inr.inr.inr.inr.inr =>
      refine .array _ fun item listed => ?_
      obtain ⟨parameter, -, rfl⟩ := List.mem_map.mp listed
      exact parameter.textual_toJson
    all_goals exact .string _
  · exact Json.textual_optionalMember _ _ member optional

/-- Parameters are read back one by one, in order. -/
theorem mapM_ofJson?_toJson (parameters : List ManifestParameter) :
    (parameters.map (·.toJson)).mapM ManifestParameter.ofJson? = some parameters := by
  induction parameters with
  | nil => rfl
  | cons parameter parameters ih => simp [List.mapM_cons, ManifestParameter.ofJson?_toJson, ih]

/-- A manifest is read back from its members. -/
theorem ofJson?_toJson (manifest : Manifest) : ofJson? manifest.toJson = some manifest := by
  have fields : Json.fields? ["name", "language", "architecture", "file", "fingerprint", "parameters",
      "return_type"] manifest.toJson =
      some [some (.string manifest.name), some (.string manifest.language.name),
        some (.string manifest.architecture.name), some (.string manifest.file),
        some (.string manifest.fingerprint), some (.array (manifest.parameters.map (·.toJson))),
        manifest.returns.map .string] := by
    obtain ⟨_, _, _, _, _, _, returns⟩ := manifest
    cases returns <;> rfl
  have returns : Json.optional? Json.text? (manifest.returns.map .string) = some manifest.returns := by
    cases manifest.returns <;> rfl
  simp only [ofJson?, fields, Json.text?, Json.choice?, Json.items?, Language.ofExactName?_name,
    Architecture.ofExactName?_name, returns, Option.bind_eq_bind, Option.bind_some, mapM_ofJson?_toJson]
  rfl

/-- The text of a manifest is read as the value that was written. -/
theorem read_text (manifest : Manifest) : Json.read manifest.text = some manifest.toJson :=
  Json.read_pretty manifest.textual_toJson

/-- A manifest is what its text is read as. -/
theorem ofText?_text (manifest : Manifest) : ofText? manifest.text = some manifest := by
  rw [ofText?, read_text]
  exact manifest.ofJson?_toJson

end Manifest

end VectorKernel
