import Mathlib.Data.List.Nodup
import StringsAudit.Proofs.Reading

/-!
# Why a file cannot be read

The words for a file that cannot be read, spelled out cause by cause. The system tells of the path
by a number and a phrase, with the path between quotes. A codec tells of the bytes by its name, by
the place of those at fault and by what is wrong with them.
-/

set_option autoImplicit false

namespace StringsAudit

def systemWords : List (PathFault × Text × Text) :=
  [(.missing, "2".toList, "No such file or directory".toList),
   (.notDirectory, "20".toList, "Not a directory".toList),
   (.isDirectory, "21".toList, "Is a directory".toList),
   (.nameTooLong, "36".toList, "File name too long".toList),
   (.linkLoop, "40".toList, "Too many levels of symbolic links".toList)]

def codecWords : List (Encoding.Codec × Text) :=
  [(.utf8, "utf-8".toList), (.utf16 .little, "utf-16-le".toList), (.utf16 .big, "utf-16-be".toList),
   (.utf32 .little, "utf-32-le".toList), (.utf32 .big, "utf-32-be".toList)]

def reasonWords : List (Encoding.Reason × Text) :=
  [(.invalidStart, "invalid start byte".toList),
   (.invalidContinuation, "invalid continuation byte".toList),
   (.unexpectedEnd, "unexpected end of data".toList),
   (.truncated, "truncated data".toList),
   (.unpairedHigh, "illegal UTF-16 surrogate".toList),
   (.unpairedLow, "illegal encoding".toList),
   (.surrogate, "code point in surrogate code point range(0xd800, 0xe000)".toList),
   (.outOfRange, "code point not in range(0x110000)".toList)]

namespace ReadFailure

inductive ToldAs : ReadFailure → Text → Prop
  | system {path number words : Text} {fault : PathFault}
      (known : (fault, number, words) ∈ systemWords) :
      ToldAs ⟨path, .access fault⟩
        ("[Errno ".toList ++ number ++ "] ".toList ++ words ++ ": ".toList ++ Text.quoted path)
  | byte {path name words : Text} {fault : Encoding.Fault} (alone : fault.others = [])
      (codec : (fault.codec, name) ∈ codecWords) (known : (fault.reason, words) ∈ reasonWords) :
      ToldAs ⟨path, .decoding fault⟩
        ("'".toList ++ name ++ "' codec can't decode ".toList ++ "byte 0x".toList ++
          Text.hexDigits 2 fault.first.toNat ++ " in position ".toList ++
          Nat.toDigits 10 fault.position ++ ": ".toList ++ words)
  | bytes {path name words : Text} {fault : Encoding.Fault} (several : fault.others ≠ [])
      (codec : (fault.codec, name) ∈ codecWords) (known : (fault.reason, words) ∈ reasonWords) :
      ToldAs ⟨path, .decoding fault⟩
        ("'".toList ++ name ++ "' codec can't decode ".toList ++ "bytes in position ".toList ++
          Nat.toDigits 10 fault.position ++ "-".toList ++
          Nat.toDigits 10 (fault.position + fault.others.length) ++ ": ".toList ++ words)

theorem codec_mem_codecWords (codec : Encoding.Codec) : (codec, codec.name) ∈ codecWords := by
  cases codec with
  | utf8 => exact .head _
  | utf16 order =>
    cases order with
    | little => exact .tail _ (.head _)
    | big => exact .tail _ (.tail _ (.head _))
  | utf32 order =>
    cases order with
    | little => exact .tail _ (.tail _ (.tail _ (.head _)))
    | big => exact .tail _ (.tail _ (.tail _ (.tail _ (.head _))))

theorem reason_mem_reasonWords (reason : Encoding.Reason) :
    (reason, reason.text) ∈ reasonWords := by
  have table : reasonWords = [Encoding.Reason.invalidStart, .invalidContinuation, .unexpectedEnd,
      .truncated, .unpairedHigh, .unpairedLow, .surrogate, .outOfRange].map
        fun reason => (reason, reason.text) := rfl
  rw [table]
  apply List.mem_map_of_mem
  cases reason <;> decide

theorem toldAs_decoding (path : Text) (fault : Encoding.Fault) :
    ToldAs ⟨path, .decoding fault⟩ fault.message := by
  have codec := codec_mem_codecWords fault.codec
  have known := reason_mem_reasonWords fault.reason
  rw [Encoding.Fault.message, Encoding.Fault.place]
  split
  next alone =>
    have told : ToldAs ⟨path, .decoding fault⟩ _ := .byte alone codec known
    simpa using told
  next several =>
    have told : ToldAs ⟨path, .decoding fault⟩ _ := .bytes several codec known
    simpa [Encoding.Fault.last] using told

/-- Every failure but that of a path with a NUL is told by its reason. -/
theorem toldAs_reason {failure : ReadFailure} (fatal : failure.IsFatal) :
    failure.ToldAs failure.reason := by
  obtain ⟨path, cause⟩ := failure
  cases cause with
  | decoding fault => exact toldAs_decoding path fault
  | access fault =>
    cases fault with
    | embeddedNul => exact absurd rfl fatal
    | missing => exact .system (.head _)
    | notDirectory => exact .system (.tail _ (.head _))
    | isDirectory => exact .system (.tail _ (.tail _ (.head _)))
    | nameTooLong => exact .system (.tail _ (.tail _ (.tail _ (.head _))))
    | linkLoop => exact .system (.tail _ (.tail _ (.tail _ (.tail _ (.head _)))))

theorem words_unique {α β : Type} {table : List (α × β)} (distinct : (table.map Prod.fst).Nodup)
    {key : α} {words other : β} (h : (key, words) ∈ table) (ho : (key, other) ∈ table) :
    words = other :=
  congrArg Prod.snd (List.inj_on_of_nodup_map distinct h ho rfl)

/-- No failure is told in two ways. -/
theorem ToldAs.unique {failure : ReadFailure} {words other : Text} (h : failure.ToldAs words)
    (ho : failure.ToldAs other) : words = other := by
  have systems : (systemWords.map Prod.fst).Nodup := by decide
  have codecs : (codecWords.map Prod.fst).Nodup := by decide
  have reasons : (reasonWords.map Prod.fst).Nodup := by decide
  cases h with
  | system known =>
    cases ho with
    | system known' =>
      obtain ⟨rfl, rfl⟩ := Prod.mk.inj (words_unique systems known known')
      rfl
  | byte alone codec known =>
    cases ho with
    | byte _ codec' known' =>
      rw [words_unique codecs codec codec', words_unique reasons known known']
    | bytes several => exact absurd alone several
  | bytes several codec known =>
    cases ho with
    | byte alone => exact absurd alone several
    | bytes _ codec' known' =>
      rw [words_unique codecs codec codec', words_unique reasons known known']

end ReadFailure

end StringsAudit
