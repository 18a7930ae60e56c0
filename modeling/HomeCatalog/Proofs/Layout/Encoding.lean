import HomeCatalog.Layout.Streams
import HomeCatalog.Proofs.Text.CodePage
import HomeCatalog.Proofs.Traversal

/-!
# Texts as bytes

A text has bytes exactly if the code page holds all of its characters, and then nothing is lost:
each character has its own byte, and the bytes say the text (`encodeText_lossless`). For any other
text the fault in words names the text, the place of the first character without a byte and the
stretch of such characters that begins there.
-/

namespace HomeCatalog

theorem encodeText_eq_ok_iff {label text : String} {bs : List UInt8} :
    encodeText label text = .ok bs ↔ Text.decodeCodePage bs = some text.toList := by
  rw [encodeText, mapError_eq_ok_iff, Text.encodeCodePage_eq_ok_iff]

theorem exists_encodeText_iff {label text : String} :
    (∃ bs, encodeText label text = .ok bs) ↔ ∀ c ∈ text.toList, Text.InCodePage c := by
  simp only [encodeText, mapError_eq_ok_iff, Text.exists_encodeCodePage_iff, Text.inCodePage_iff]

theorem encodeText_of_isFirstStretch {label text : String} {before run after : List Char}
    (htext : text.toList = before ++ (run ++ after))
    (h : Text.IsFirstStretch before run after) :
    encodeText label text = .error ⟨label, before.length, run⟩ := by
  rw [encodeText, htext, Text.encodeCodePage_of_isFirstStretch h, Nat.zero_add]
  rfl

/-- A text with all its characters in the code page has one byte for each of them, and these bytes
are those that say the text. Any other text has none, and the fault tells the first stretch of it
without bytes. -/
theorem encodeText_lossless (label text : String) :
    ((∃ bs, encodeText label text = .ok bs) ↔ ∀ c ∈ text.toList, Text.InCodePage c) ∧
    (∀ bs, encodeText label text = .ok bs ↔
      bs.length = text.length ∧ Text.decodeCodePage bs = some text.toList) ∧
    ((∃ c ∈ text.toList, ¬Text.InCodePage c) → ∃ before run after fault,
      text.toList = before ++ (run ++ after) ∧ Text.IsFirstStretch before run after ∧
        encodeText label text = .error fault ∧
        fault.message = label ++ ": character " ++ Text.shown (String.ofList run) ++
          " at offset " ++ toString before.length ++ " cannot be encoded as cp1252") := by
  refine ⟨exists_encodeText_iff, fun bs => ?_, fun h => ?_⟩
  · rw [encodeText_eq_ok_iff]
    refine ⟨fun hdecode => ⟨?_, hdecode⟩, And.right⟩
    rw [Text.length_of_decodeCodePage hdecode, String.length_toList]
  · obtain ⟨before, run, after, htext, hstretch⟩ := Text.exists_isFirstStretch h
    exact ⟨before, run, after, _, htext, hstretch, encodeText_of_isFirstStretch htext hstretch, by
      simp [EncodingFault.message, toString, String.append_assoc]⟩

example : encodeText "home" "5 °C, €" = .ok [0x35, 0x20, 0xB0, 0x43, 0x2C, 0x20, 0x80] := by decide

example : (encodeText "home" "°☃𝄞€☃").mapError EncodingFault.message =
    .error "home: character '☃𝄞' at offset 1 cannot be encoded as cp1252" := by decide +kernel

end HomeCatalog
