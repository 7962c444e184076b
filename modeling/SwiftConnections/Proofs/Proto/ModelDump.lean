import Mathlib.Data.List.Basic
import Mathlib.Data.Prod.Basic
import SwiftConnections.Proofs.Http.RuleStrings
import SwiftConnections.Proofs.JsonText
import SwiftConnections.Proto.ModelJson

namespace SwiftConnections

open Function

theorem Json.text_injective : Injective Json.text :=
  fun _ _ => Json.text.inj

theorem Json.optional_injective {α : Type} {f : α → Json} (h : Injective f) (hnull : ∀ a, f a ≠ .null) :
    Injective (Json.optional f) := by
  intro a b heq
  cases a with
  | none =>
    cases b with
    | none => rfl
    | some b => exact absurd heq.symm (hnull b)
  | some a =>
    cases b with
    | none => exact absurd heq (hnull a)
    | some b => exact congrArg some (h heq)

theorem Json.optional_text_injective : Injective (Json.optional Json.text) :=
  Json.optional_injective Json.text_injective fun _ => Json.noConfusion

theorem HttpPattern.json_injective : Injective HttpPattern.json := by
  intro a b h
  cases a <;> cases b <;> simp_all [HttpPattern.json]

theorem HttpRule.jsonOfAll_eq (rules : List HttpRule) : jsonOfAll rules = rules.map json := by
  induction rules with
  | nil => rfl
  | cons rule rules ih => rw [jsonOfAll, ih, List.map_cons]

theorem eq_of_map_eq {α β : Type} {f : α → β} {as bs : List α} (h : ∀ a ∈ as, ∀ b, f a = f b → a = b)
    (heq : as.map f = bs.map f) : as = bs := by
  induction as generalizing bs with
  | nil => exact (List.map_eq_nil_iff.mp heq.symm).symm
  | cons a as ih =>
    obtain ⟨b, bs, rfl, hb, hbs⟩ := List.map_eq_cons_iff.mp heq.symm
    obtain ⟨ha, has⟩ := List.forall_mem_cons.mp h
    rw [ha b hb.symm, ih has hbs.symm]

theorem HttpRule.json_injective : Injective HttpRule.json := by
  intro rule
  induction rule using HttpRule.induct with
  | step rule ih =>
    intro other h
    obtain ⟨selector, pattern, body, additional, responseBody⟩ := rule
    obtain ⟨selector', pattern', body', additional', responseBody'⟩ := other
    simp only [json, jsonOfAll_eq, Json.object.injEq, Json.text.injEq, Json.array.injEq, List.cons.injEq, Prod.mk.injEq,
      true_and, and_true] at h
    obtain ⟨rfl, hpattern, rfl, hadditional, rfl⟩ := h
    have hpattern : pattern = pattern' :=
      Json.optional_injective HttpPattern.json_injective (fun p => by cases p <;> exact Json.noConfusion) hpattern
    have hadditional : additional = additional' := eq_of_map_eq (fun inner hm other => @ih inner hm other) hadditional
    rw [hpattern, hadditional]

theorem HttpRule.json_ne_null (rule : HttpRule) : rule.json ≠ .null := by
  cases rule
  rw [json]
  exact Json.noConfusion

theorem MethodOptions.json_injective : Injective MethodOptions.json := by
  rintro ⟨deprecated, http⟩ ⟨deprecated', http'⟩ h
  simp only [json, Json.object.injEq, Json.bool.injEq, List.cons.injEq, Prod.mk.injEq, true_and, and_true] at h
  obtain ⟨rfl, hhttp⟩ := h
  rw [Json.optional_injective HttpRule.json_injective HttpRule.json_ne_null hhttp]

theorem Method.json_injective : Injective Method.json := by
  rintro ⟨name, input, output, clientStreaming, serverStreaming, options⟩
    ⟨name', input', output', clientStreaming', serverStreaming', options'⟩ h
  simp only [json, Json.object.injEq, Json.text.injEq, Json.bool.injEq, List.cons.injEq, Prod.mk.injEq, true_and,
    and_true] at h
  obtain ⟨rfl, rfl, rfl, rfl, rfl, hoptions⟩ := h
  rw [MethodOptions.json_injective hoptions]

theorem Service.json_injective : Injective Service.json := by
  rintro ⟨name, methods⟩ ⟨name', methods'⟩ h
  simp only [json, Json.object.injEq, Json.text.injEq, Json.array.injEq, List.cons.injEq, Prod.mk.injEq, true_and,
    and_true] at h
  obtain ⟨rfl, hmethods⟩ := h
  rw [Method.json_injective.list_map hmethods]

theorem ProtoFile.json_injective : Injective ProtoFile.json := by
  rintro ⟨name, package, swiftPrefix, services⟩ ⟨name', package', swiftPrefix', services'⟩ h
  simp only [json, Json.object.injEq, Json.text.injEq, Json.array.injEq, List.cons.injEq, Prod.mk.injEq, true_and,
    and_true] at h
  obtain ⟨rfl, rfl, hprefix, hservices⟩ := h
  rw [Json.optional_text_injective hprefix, Service.json_injective.list_map hservices]

theorem MessageRef.json_injective : Injective MessageRef.json := by
  rintro ⟨package, swiftPrefix, path⟩ ⟨package', swiftPrefix', path'⟩ h
  simp only [json, Json.object.injEq, Json.text.injEq, Json.array.injEq, List.cons.injEq, Prod.mk.injEq, true_and,
    and_true] at h
  obtain ⟨rfl, hprefix, hpath⟩ := h
  rw [Json.optional_text_injective hprefix, Json.text_injective.list_map hpath]

theorem TypeIndex.json_injective : Injective TypeIndex.json := by
  rintro ⟨entries, ascending⟩ ⟨entries', ascending'⟩ h
  simp only [json, Json.object.injEq, List.cons.injEq, Prod.mk.injEq, true_and, and_true] at h
  have hentry : Injective fun e : Text × MessageRef => (e.1, e.2.json) := injective_id.prodMap MessageRef.json_injective
  obtain rfl := hentry.list_map h
  rfl

theorem Model.json_injective : Injective Model.json := by
  rintro ⟨files, types⟩ ⟨files', types'⟩ h
  simp only [json, Json.object.injEq, Json.array.injEq, List.cons.injEq, Prod.mk.injEq, true_and, and_true] at h
  obtain ⟨hfiles, htypes⟩ := h
  rw [ProtoFile.json_injective.list_map hfiles, TypeIndex.json_injective htypes]

/-- The dump of a model determines it: files, services, methods, rules and types can be told from the text, and what is absent
from what is empty. -/
theorem Model.dump_eq_iff (model model' : Model) : model.dump = model'.dump ↔ model = model' := by
  refine ⟨fun h => ?_, congrArg dump⟩
  exact Model.json_injective (Json.pretty_injective 0 h)

end SwiftConnections
