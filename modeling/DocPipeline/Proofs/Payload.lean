import DocPipeline.Payload.Basic
import Mathlib

/-!
# Payloads as documents

A payload can be taken for a document strictly, with a fault where it is none, or as well as may be,
with its bytes where it is none. Both ways come to the same document, and the second one loses
nothing: what is no document is kept byte for byte, and looking at these bytes again gives no other
answer. A text and the bytes that encode it are the same to both.

## Main definitions

* `Payload.content?`: the bytes that a payload holds.

## Main results

* `Payload.textOfBytes?_eq_some_iff`: what decoding undoes.
* `Payload.asDocumentOrBytes_eq`: the second way of reading, told by the first.
* `Payload.readings_agree`: what the two have in common.
-/

namespace DocPipeline.Payload

/-! ### Texts and their bytes -/

/-- A text is read back from its bytes. -/
theorem textOfBytes?_bytesOfText (content : String) :
    textOfBytes? (bytesOfText content) = some content := by
  simp only [textOfBytes?, bytesOfText, String.fromUTF8?, String.toUTF8_eq_toByteArray]
  rw [dif_pos content.isValidUTF8]
  rfl

/-- **Bytes are read as the text that they encode**, and as no other. -/
theorem textOfBytes?_eq_some_iff {bytes : List UInt8} {text : String} :
    textOfBytes? bytes = some text ↔ bytesOfText text = bytes := by
  constructor
  · intro decoded
    rw [textOfBytes?, String.fromUTF8?] at decoded
    split at decoded
    · obtain rfl := Option.some.inj decoded
      rfl
    · cases decoded
  · rintro rfl
    exact textOfBytes?_bytesOfText text

/-- Bytes in well-formed UTF-8 are read as a text. -/
theorem exists_textOfBytes? {bytes : List UInt8}
    (valid : ByteArray.IsValidUTF8 ⟨bytes.toArray⟩) : ∃ text, textOfBytes? bytes = some text :=
  ⟨_, by rw [textOfBytes?, String.fromUTF8?, dif_pos valid]⟩

/-! ### Documents -/

/-- The bytes that a payload holds, those of a text in UTF-8. -/
def content? : Payload → Option (List UInt8)
  | .text content => some (bytesOfText content)
  | .bytes content => some content
  | .empty | .document _ => none

/-- A text and its bytes are the same document, or have the same fault. -/
theorem toDocument_of_textOfBytes? {bytes : List UInt8} {text : String}
    (decoded : textOfBytes? bytes = some text) :
    (Payload.bytes bytes).toDocument = (Payload.text text).toDocument := by
  simp only [toDocument, decoded]

/-- **A payload as a document, as well as may be**: the document that it is or writes, or else the
bytes that it holds, if any. -/
theorem asDocumentOrBytes_eq (payload : Payload) :
    payload.asDocumentOrBytes =
      match payload.toDocument with
      | .ok doc => .document doc
      | .error _ => (payload.content?.map .bytes).getD .empty := by
  cases payload with
  | empty => rfl
  | document root => rfl
  | text content =>
      rw [asDocumentOrBytes, toDocument, content?]
      cases Element.parse content <;> rfl
  | bytes content =>
      rw [asDocumentOrBytes, toDocument, content?]
      cases textOfBytes? content with
      | none => rfl
      | some written =>
          dsimp only [Option.map_some]
          cases Element.parse written <;> rfl

/-- What is a document is taken for that document. -/
theorem asDocumentOrBytes_of_ok {payload : Payload} {doc : Element}
    (reads : payload.toDocument = .ok doc) : payload.asDocumentOrBytes = .document doc := by
  rw [asDocumentOrBytes_eq, reads]

/-- What is none is taken for its bytes. -/
theorem asDocumentOrBytes_of_error {payload : Payload} {fault : DocumentFault}
    (faulty : payload.toDocument = .error fault) :
    payload.asDocumentOrBytes = (payload.content?.map .bytes).getD .empty := by
  rw [asDocumentOrBytes_eq, faulty]

/-- The bytes of a payload have the fault that the payload has. -/
theorem toDocument_of_content? {payload : Payload} {content : List UInt8}
    (holds : payload.content? = some content) :
    (Payload.bytes content).toDocument = payload.toDocument := by
  cases payload with
  | empty => cases holds
  | document root => cases holds
  | bytes bytes => rw [Option.some.inj holds]
  | text text =>
      exact toDocument_of_textOfBytes? (textOfBytes?_eq_some_iff.mpr (Option.some.inj holds))

/-- No payload stays a text. -/
theorem asDocumentOrBytes_ne_text (payload : Payload) (content : String) :
    payload.asDocumentOrBytes ≠ .text content := by
  cases reads : payload.toDocument with
  | ok doc =>
      rw [asDocumentOrBytes_of_ok reads]
      exact nofun
  | error fault =>
      rw [asDocumentOrBytes_of_error reads]
      cases payload.content? <;> exact nofun

/-- **Looking again changes nothing**: documents are documents, and bytes that write none are bytes
that write none. -/
theorem asDocumentOrBytes_idem (payload : Payload) :
    payload.asDocumentOrBytes.asDocumentOrBytes = payload.asDocumentOrBytes := by
  cases reads : payload.toDocument with
  | ok doc =>
      rw [asDocumentOrBytes_of_ok reads]
      rfl
  | error fault =>
      rw [asDocumentOrBytes_of_error reads]
      cases holds : payload.content? with
      | none => rfl
      | some content =>
          -- the bytes have the fault that the payload had, so that they stay bytes
          have still := (toDocument_of_content? holds).trans reads
          exact asDocumentOrBytes_of_error still

/-- A text and its bytes are taken for the same. -/
theorem asDocumentOrBytes_of_textOfBytes? {bytes : List UInt8} {text : String}
    (decoded : textOfBytes? bytes = some text) :
    (Payload.bytes bytes).asDocumentOrBytes = (Payload.text text).asDocumentOrBytes := by
  have same := toDocument_of_textOfBytes? decoded
  have content : (Payload.bytes bytes).content? = (Payload.text text).content? := by
    rw [content?, content?, textOfBytes?_eq_some_iff.mp decoded]
  rw [asDocumentOrBytes_eq, asDocumentOrBytes_eq, same, content]

/-- **The two ways of reading agree.** A payload is taken for a document exactly if it is read as
that document. Otherwise it is taken for its bytes, those of a text in UTF-8, and nothing is taken
for nothing; so no payload stays a text, and taking the outcome once more gives it back. To both ways
of reading, bytes in well-formed UTF-8 are the text that they encode. -/
theorem readings_agree (payload : Payload) :
    (∀ doc, payload.asDocumentOrBytes = .document doc ↔ payload.toDocument = .ok doc) ∧
      (∀ fault, payload.toDocument = .error fault →
        payload = .empty ∧ payload.asDocumentOrBytes = .empty ∨
          ∃ content, payload.content? = some content ∧
            payload.asDocumentOrBytes = .bytes content) ∧
      (∀ content, payload.asDocumentOrBytes ≠ .text content) ∧
      payload.asDocumentOrBytes.asDocumentOrBytes = payload.asDocumentOrBytes ∧
      ∀ bytes, ByteArray.IsValidUTF8 ⟨bytes.toArray⟩ →
        ∃ text, textOfBytes? bytes = some text ∧ bytesOfText text = bytes ∧
          (Payload.bytes bytes).toDocument = (Payload.text text).toDocument ∧
          (Payload.bytes bytes).asDocumentOrBytes = (Payload.text text).asDocumentOrBytes := by
  refine ⟨fun doc => ⟨fun taken => ?_, asDocumentOrBytes_of_ok⟩, fun fault faulty => ?_,
    payload.asDocumentOrBytes_ne_text, payload.asDocumentOrBytes_idem, fun bytes valid => ?_⟩
  · cases reads : payload.toDocument with
    | ok other =>
        rw [asDocumentOrBytes_of_ok reads] at taken
        cases taken
        rfl
    | error fault =>
        rw [asDocumentOrBytes_of_error reads] at taken
        cases holds : payload.content? <;> rw [holds] at taken <;> cases taken
  · have taken := asDocumentOrBytes_of_error faulty
    cases payload with
    | empty => exact .inl ⟨rfl, taken⟩
    | document root => cases faulty
    | text content => exact .inr ⟨_, rfl, taken⟩
    | bytes content => exact .inr ⟨_, rfl, taken⟩
  · obtain ⟨text, decoded⟩ := exists_textOfBytes? valid
    exact ⟨text, decoded, textOfBytes?_eq_some_iff.mp decoded,
      toDocument_of_textOfBytes? decoded, asDocumentOrBytes_of_textOfBytes? decoded⟩

/-- A letter outside of ASCII is no document, and is kept as the two bytes that encode it. -/
theorem readings_agree_on_letter :
    (Payload.text "é").toDocument = .error .strayText ∧
      (Payload.text "é").asDocumentOrBytes = .bytes [195, 169] ∧
      ByteArray.IsValidUTF8 ⟨[195, 169].toArray⟩ ∧
      (Payload.bytes [195, 169]).toDocument = .error .strayText := by
  have faulty : (Payload.text "é").toDocument = .error .strayText := by decide +kernel
  have valid : ByteArray.IsValidUTF8 ⟨[195, 169].toArray⟩ := ⟨['é'], by decide⟩
  have letter : textOfBytes? [195, 169] = some "é" := textOfBytes?_eq_some_iff.mpr (by decide)
  obtain ⟨-, kept, -, -, same⟩ := readings_agree (.text "é")
  obtain ⟨text, decoded, -, reads, -⟩ := same _ valid
  obtain rfl : "é" = text := Option.some.inj (letter.symm.trans decoded)
  obtain ⟨isEmpty, -⟩ | ⟨content, holds, taken⟩ := kept _ faulty
  · cases isEmpty
  · obtain rfl := Option.some.inj holds
    exact ⟨faulty, taken, valid, reads.trans faulty⟩

end DocPipeline.Payload
