import DocPipeline.Proofs.Document.Coding
import DocPipeline.RunOutput

/-!
# Outputs read back from values

Payloads, stage results and run outputs written as values are read back as they were, in whatever
order their fields are listed. An empty payload is a value of its own, and an output without a
payload is another one. Since all of them are read back, no two of them are written alike.

## Main results

* `Payload.ofJson?_arrange`, `StageResult.ofJson?_arrange`, `RunOutput.ofJson?_arrange`: each read
  back.
* `documents_and_outputs_read_back`: documents, payloads, results and outputs as values.
-/

namespace DocPipeline

open Json (Arranges Restores field?)

/-! ### Numbers -/

/-- An unsigned number of 64 bits is read back, the largest ones included. -/
theorem Json.word_restores : Restores (fun n : UInt64 => .int n.toNat) word? := by
  intro n
  have small : n.toNat < UInt64.size := n.toNat_lt_size
  have nonneg : (0 : Int) ≤ n.toNat := Int.natCast_nonneg _
  rw [word?, Int.toNat_natCast, if_pos ⟨nonneg, small⟩, UInt64.ofNat_toNat]

/-- A byte is read back. -/
theorem Json.byte_restores : Restores (fun b : UInt8 => .int b.toNat) byte? := by
  intro b
  have small : b.toNat < UInt8.size := b.toNat_lt_size
  have nonneg : (0 : Int) ≤ b.toNat := Int.natCast_nonneg _
  rw [byte?, Int.toNat_natCast, if_pos ⟨nonneg, small⟩, UInt8.ofNat_toNat]

variable {arrange : Json → Json}

/-! ### Payloads -/

/-- **Payloads read back.** The kind of a payload tells how its value is to be read. -/
theorem Payload.ofJson?_arrange (arranges : Arranges arrange) :
    Restores (fun p => arrange p.toJson) ofJson? := by
  intro payload
  cases payload with
  | empty =>
      simp only [toJson, ofJson?, arranges.tagged_alone "empty" (by decide : "type" ≠ "value")]
      rfl
  | bytes content =>
      have read := arranges.list fun b (_ : b ∈ content) =>
        (congrArg Json.byte? (arranges.int b.toNat)).trans (Json.byte_restores b)
      simp only [toJson, ofJson?, arranges.tagged_value "bytes" _ (by decide : "type" ≠ "value")]
      simp [read]
  | text content =>
      simp only [toJson, ofJson?, arranges.tagged_value "text" _ (by decide : "type" ≠ "value")]
      simp [arranges.str, Json.text?]
  | document root =>
      simp only [toJson, ofJson?, arranges.tagged_value "document" _ (by decide : "type" ≠ "value")]
      simp [Element.ofJson?_arrange arranges root]

/-! ### Stage results -/

/-- Counters read back, each under its own name. -/
theorem Counters.ofJson?_arrange (arranges : Arranges arrange) :
    Restores (fun c => arrange c.toJson) ofJson? := by
  intro c
  obtain ⟨fields, arranged, found⟩ := arranges.obj
    [("read", .int c.read.toNat), ("insert", .int c.insert.toNat),
      ("update", .int c.update.toNat), ("discard", .int c.discard.toNat),
      ("total", .int c.total.toNat)]
  have count (name : String) (n : UInt64)
      (listed : field? fields name = some (arrange (.int n.toNat))) :
      Json.orElse fields name Json.word? 0 = some n :=
    Json.orElse_eq Json.word_restores (listed.trans (congrArg some (arranges.int _)))
  simp only [toJson, arranged, ofJson?, Json.record?, bind, Option.bind_some,
    count "read" c.read (by simp [found]), count "insert" c.insert (by simp [found]),
    count "update" c.update (by simp [found]), count "discard" c.discard (by simp [found]),
    count "total" c.total (by simp [found])]

/-- Causes read back. -/
theorem DiscardCause.ofJson?_arrange (arranges : Arranges arrange) :
    Restores (fun cause => arrange cause.toJson) ofJson? := by
  intro cause
  obtain ⟨fields, arranged, found⟩ := arranges.obj
    [("code", .str cause.code), ("reason", .str cause.reason)]
  have code : field? fields "code" = some (.str cause.code) := by simp [found, arranges.str]
  have reason : field? fields "reason" = some (.str cause.reason) := by simp [found, arranges.str]
  simp only [toJson, arranged, ofJson?, Json.record?, bind, Option.bind_some,
    Json.required_eq Json.text_restores code, Json.required_eq Json.text_restores reason]

namespace StageResult

/-- The fields of a result hold its parts; causes are left out if there are none. -/
structure Writes (result : StageResult) (fields : List (String × Json)) : Prop where
  payload : field? fields "payload" = some result.payload.toJson
  counters : field? fields "counters" = some result.counters.toJson
  discardCauses : field? fields "discard_causes" =
    if result.discardCauses.isEmpty then none
    else some (.arr (result.discardCauses.map DiscardCause.toJson))

theorem toJson_writes (result : StageResult) :
    ∃ fields, result.toJson = .obj fields ∧ result.Writes fields := by
  refine ⟨_, rfl, ?_⟩
  constructor <;> cases result.discardCauses <;> simp

/-- **Results read back.** -/
theorem ofJson?_arrange (arranges : Arranges arrange) :
    Restores (fun result => arrange result.toJson) ofJson? := by
  intro result
  obtain ⟨fields, written, writes⟩ := result.toJson_writes
  obtain ⟨arranged, same, found⟩ := arranges.obj fields
  have payload : Json.orElse arranged "payload" Payload.ofJson? .empty = some result.payload :=
    Json.orElse_eq (Payload.ofJson?_arrange arranges) (by rw [found, writes.payload]; rfl)
  have counters : Json.orElse arranged "counters" Counters.ofJson? .zero = some result.counters :=
    Json.orElse_eq (Counters.ofJson?_arrange arranges) (by rw [found, writes.counters]; rfl)
  have causes := arranges.orElse_list
    (fun cause (_ : cause ∈ result.discardCauses) => DiscardCause.ofJson?_arrange arranges cause)
    ((found "discard_causes").trans (congrArg _ writes.discardCauses))
  simp only [written, same, ofJson?, Json.record?, bind, Option.bind_some, payload, counters,
    causes]

end StageResult

/-! ### Outputs -/

/-- **Outputs read back.** -/
theorem RunOutput.ofJson?_arrange (arranges : Arranges arrange) :
    Restores (fun output => arrange output.toJson) ofJson? := by
  intro output
  cases output with
  | nothing =>
      simp only [toJson, ofJson?, arranges.tagged_alone "nothing" (by decide : "kind" ≠ "value")]
      rfl
  | payload content =>
      simp only [toJson, ofJson?, arranges.tagged_value "payload" _ (by decide : "kind" ≠ "value")]
      simp [Payload.ofJson?_arrange arranges content]
  | result report =>
      simp only [toJson, ofJson?, arranges.tagged_value "result" _ (by decide : "kind" ≠ "value")]
      simp [StageResult.ofJson?_arrange arranges report]

/-! ### All of them -/

/-- **Documents, payloads, results and outputs read back.** Each of them, written as a value, is what
the value gives; and so it is when the fields of the value are sorted at every depth. Hence two that
differ are written differently, in more than the order of fields. -/
theorem documents_and_outputs_read_back :
    (∀ e : Element, Element.ofJson? e.toJson = some e ∧ Element.ofJson? e.toJson.sorted = some e) ∧
      (∀ p : Payload,
        Payload.ofJson? p.toJson = some p ∧ Payload.ofJson? p.toJson.sorted = some p) ∧
      (∀ r : StageResult,
        StageResult.ofJson? r.toJson = some r ∧ StageResult.ofJson? r.toJson.sorted = some r) ∧
      (∀ o : RunOutput,
        RunOutput.ofJson? o.toJson = some o ∧ RunOutput.ofJson? o.toJson.sorted = some o) ∧
      Function.Injective (fun e : Element => e.toJson.sorted) ∧
      Function.Injective (fun p : Payload => p.toJson.sorted) ∧
      Function.Injective (fun r : StageResult => r.toJson.sorted) ∧
      Function.Injective (fun o : RunOutput => o.toJson.sorted) := by
  have plain := Json.arranges_id
  have sorted := Json.arranges_sorted
  refine ⟨fun e => ⟨?_, ?_⟩, fun p => ⟨?_, ?_⟩, fun r => ⟨?_, ?_⟩, fun o => ⟨?_, ?_⟩, ?_, ?_, ?_, ?_⟩
  · exact Element.ofJson?_arrange plain e
  · exact Element.ofJson?_arrange sorted e
  · exact Payload.ofJson?_arrange plain p
  · exact Payload.ofJson?_arrange sorted p
  · exact StageResult.ofJson?_arrange plain r
  · exact StageResult.ofJson?_arrange sorted r
  · exact RunOutput.ofJson?_arrange plain o
  · exact RunOutput.ofJson?_arrange sorted o
  · exact (Element.ofJson?_arrange sorted).injective
  · exact (Payload.ofJson?_arrange sorted).injective
  · exact (StageResult.ofJson?_arrange sorted).injective
  · exact (RunOutput.ofJson?_arrange sorted).injective

end DocPipeline
