import QueryGateway.Proofs.Http.Gzip
import QueryGateway.Proofs.Invocation.Dump
import QueryGateway.Proofs.Invocation.Malformed
import QueryGateway.Proofs.Rehearsal.Plan

/-!
# What a response carries

The body of a response to a result is the document of the result, as a text. Two things are said
about it.

A document can be written, what is written can be transported by either kind of response, and it is
JSON for the document; what cannot be written is no document, and the failure says so
(`dump_faithful`).

And the text is the same whoever asks: whether the deployment compresses and whether the client
takes what is compressed decides how the text travels, not what it is. `Result.Texts` spells it out,
piece by piece (`content_eq`).

What is NOT here: invocations that come to no result, and what the engine puts into one.
-/

namespace QueryGateway.Invocation

open Text Json

/-! ## Writing a document -/

/-- What goes wrong with a document is put down to the document, unless there is too little room. -/
theorem classified_dump {room : Room} {document : Value} {f : Failure}
    (h : dumpDocument room document = .error f) :
    Classified f .serializationFailure OwnClass.serializationFailure.name ∨
      within room (levels document) = false ∧ Classified f .internal "RecursionError" := by
  cases fits : within room (levels document) with
  | true =>
      obtain ⟨fault, rfl⟩ := dump_error_of_fits fits h
      exact .inl ((classified_own ..).causedBy _)
  | false =>
      obtain ⟨fault, -, rfl⟩ := Except.of_mapError_error h
      cases fault with
      | tooDeep doing => exact .inr ⟨rfl, rfl, rfl⟩
      | _ => exact .inl ((classified_own ..).causedBy _)

/-- A text of printable ASCII comes out of a response of either kind. -/
theorem content_responseTo {t : Text} (printable : t.IsPrintable) (headers : Http.Headers)
    (compress : Bool) : (responseTo headers t compress).content = some t := by
  unfold responseTo
  cases compress && Http.AcceptEncoding.acceptsGzip headers with
  | false => rfl
  | true => exact Http.Gzip.decodeText?_encodeText printable.isScalar

/-- Any document that there is room for is written as printable ASCII, which has bytes and comes out
of a response of either kind; and it is JSON for the document, with lists for tuples, if no text in
it has a first half of a surrogate pair directly before a second one. Two such halves come out as
the character that they spell. What cannot be written has a fault of the list, at some depth, and
its failure is one of serialization; or it is nested deeper than there is room for, which may also
end in the failure of a recursion. -/
theorem dump_faithful (room : Room) (v : Value) :
    (AnyDocument v → within room (levels v) = true →
      ∃ t, dumpDocument room v = .ok t ∧ t.IsPrintable ∧
      Utf8.encodeStrictly t = .ok (Utf8.encode t) ∧
      (∀ headers compress, (responseTo headers t compress).content = some t) ∧
      read? Dialect.unlimited t = some v.asRead ∧
      (LoneDocument v → read? Dialect.unlimited t = some v.listed)) ∧
    ((∃ f, dumpDocument room v = .error f) ↔ Unwritable v ∨ within room (levels v) = false) ∧
    ∀ f, dumpDocument room v = .error f →
      Classified f .serializationFailure OwnClass.serializationFailure.name ∨
        within room (levels v) = false ∧ Classified f .internal "RecursionError" := by
  refine ⟨fun document fits => ?_, dump_fails_iff, fun f => classified_dump⟩
  obtain ⟨t, written, read⟩ := document.read?_write
  have dumped : dumpDocument room v = .ok t := dump_eq_ok_iff.mpr ⟨fits, written⟩
  have printable := dump_isPrintable dumped
  refine ⟨t, dumped, printable, Utf8.encodeStrictly_of_isScalar printable.isScalar,
    content_responseTo printable, read, fun lone => ?_⟩
  rw [← lone.asRead_eq]
  exact read

/-- A document with two surrogates in one text, each of them alone, a tuple, and quotes in a
name. -/
def mixedDocument : Members :=
  [("\"é\"", .text [CodePoint.ofNat 0xDE00, 'x', CodePoint.ofNat 0xD83D]),
    ("parts", .tuple [.null, .bool true, .list [.int (-7), .text "😀\n"]])]

theorem dump_faithful_mixed :
    AnyDocument (Value.object mixedDocument) ∧ LoneDocument (Value.object mixedDocument) ∧
      within usualRoom (levels (Value.object mixedDocument)) = true ∧
      ∃ t, dumpDocument usualRoom (Value.object mixedDocument) = .ok t ∧
        read? Dialect.unlimited t = some (Value.object
          [("\"é\"", .text [CodePoint.ofNat 0xDE00, 'x', CodePoint.ofNat 0xD83D]),
            ("parts", .list [.null, .bool true, .list [.int (-7), .text "😀\n"]])]) := by
  have lone : LoneDocument (Value.object mixedDocument) := by
    refine .object (by decide +kernel) (by decide +kernel) (List.forall_mem_cons.mpr
      ⟨?_, List.forall_mem_singleton.mpr ?_⟩)
    · exact .text (by decide +kernel)
    · have short : ¬ TooLong (-7) := by decide +kernel
      have inner : LoneDocument (.list [.int (-7), .text "😀\n"]) :=
        .list (List.forall_mem_cons.mpr
          ⟨.int short, List.forall_mem_singleton.mpr (.text (by decide +kernel))⟩)
      exact .tuple (List.forall_mem_cons.mpr ⟨.null, List.forall_mem_cons.mpr
        ⟨.bool true, List.forall_mem_singleton.mpr inner⟩⟩)
  have document : AnyDocument (Value.object mixedDocument) := lone.mono fun _ _ => trivial
  have fits : within usualRoom (levels (Value.object mixedDocument)) = true := by decide
  obtain ⟨t, written, -, -, -, -, read⟩ :=
    (dump_faithful usualRoom (Value.object mixedDocument)).1 document fits
  exact ⟨document, lone, fits, t, written, read lone⟩

/-- Lists inside one another. -/
def nested : Nat → Value
  | 0 => .null
  | n + 1 => .list [nested n]

theorem document_nested (n : Nat) : LoneDocument (nested n) := by
  induction n with
  | zero => exact .null
  | succ n ih => exact .list (List.forall_mem_singleton.mpr ih)

/-- One list more than there is room for is met by a call too many. -/
theorem writeWithin_nested (n : Nat) : writeWithin .response (some n) (nested (n + 1)) =
    .error (.tooDeep " while encoding a JSON object") := by
  induction n with
  | zero => rfl
  | succ n ih =>
      show (do
        let first ← writeWithin .response (some n) (nested (n + 1))
        let more ← writeItemsWithin .response (some n) []
        .ok (first :: more) : Except WriteFault (List Text)).map (brackets .response) = _
      rw [ih]
      rfl

/-- The two halves of a surrogate pair, side by side. -/
def adjacentHalves : Text := [CodePoint.ofNat 0xD83D, CodePoint.ofNat 0xDE00]

/-- Two halves of a surrogate pair that stand side by side come back as one character, and lists
that are nested too deep are not written, although each of them is a document. -/
theorem dump_unfaithful :
    (AnyDocument (.text adjacentHalves) ∧
      ∃ t, dumpDocument usualRoom (.text adjacentHalves) = .ok t ∧
        read? Dialect.unlimited t = some (.text "😀") ∧
        Value.text "😀" ≠ (Value.text adjacentHalves).listed) ∧
    (AnyDocument (nested 901) ∧
      ∃ f, dumpDocument usualRoom (nested 901) = .error f ∧
        Classified f .internal "RecursionError") := by
  have document : AnyDocument (.text adjacentHalves) := .text trivial
  obtain ⟨t, written, read⟩ := document.read?_write
  have fused : (Value.text adjacentHalves).asRead = .text "😀" :=
    congrArg Value.text (by decide +kernel)
  have other : Value.text "😀" ≠ (Value.text adjacentHalves).listed := by
    intro same
    have longer : ("😀" : Text).length ≠ adjacentHalves.length := by decide
    exact longer (congrArg List.length (Value.text.inj same))
  have tooDeep : dumpDocument usualRoom (nested 901) =
      .error (dumpFailure (.tooDeep " while encoding a JSON object")) := by
    rw [dumpDocument, usualRoom, writeWithin_nested]
    rfl
  refine ⟨⟨document, t, dump_eq_ok_iff.mpr ⟨rfl, written⟩, ?_, other⟩,
    (document_nested 901).mono fun _ _ => trivial, _, tooDeep, rfl, rfl⟩
  rw [read, fused]

/-! ## The document of a result -/

/-- The text of the extensions of a result, unless these are null. -/
inductive Result.ExtensionsText (r : Result) : Option Text → Prop
  | absent : r.extensions = .null → ExtensionsText r none
  | present {t : Text} : r.extensions ≠ .null → write .response r.extensions = .ok t →
      ExtensionsText r (some t)

/-- The texts of the parts of a result: of its data, of each error in the order of the engine, and
of its extensions unless these are null. -/
structure Result.Texts (r : Result) where
  data : Text
  errors : List Text
  extensions : Option Text
  writtenData : write .response r.data = .ok data
  writtenErrors : List.Forall₂ (fun e t => write .response (Value.object e.members) = .ok t)
    (r.errors.getD []) errors
  writtenExtensions : r.ExtensionsText extensions

/-- The members of the document, in their order: data, errors if there is one, extensions if there
are any. -/
def Result.Texts.members {r : Result} (p : r.Texts) : List Text :=
  ["\"data\":" ++ p.data] ++
    (if p.errors.isEmpty then [] else ["\"errors\":[" ++ join "," p.errors ++ "]"]) ++
    (p.extensions.map fun t => ("\"extensions\":" : Text) ++ t).toList

/-- The document of a result as a text. -/
def Result.Texts.body {r : Result} (p : r.Texts) : Text :=
  "\x7b" ++ join "," p.members ++ "\x7d"

/-- A result the parts of which can all be written. -/
structure Result.Presentable (r : Result) : Prop where
  data : Writable r.data
  errors : ∀ e ∈ r.errors.getD [], Writable (Value.object e.members)
  extensions : Writable r.extensions

theorem Result.Presentable.texts {r : Result} (h : r.Presentable) : Nonempty r.Texts := by
  obtain ⟨data, writtenData⟩ := h.data
  obtain ⟨errors, writtenErrors⟩ := exists_texts h.errors
  obtain ⟨extensions, writtenExtensions⟩ := h.extensions
  by_cases none : r.extensions = .null
  · exact ⟨⟨data, errors, _, writtenData, writtenErrors, .absent none⟩⟩
  · exact ⟨⟨data, errors, _, writtenData, writtenErrors, .present none writtenExtensions⟩⟩

theorem writeItems_map {α : Type} {f : α → Value} {as : List α} {ts : List Text}
    (h : List.Forall₂ (fun a t => write .response (f a) = .ok t) as ts) :
    writeItems .response (as.map f) = .ok ts := by
  induction h with
  | nil => rfl
  | cons first _ ih =>
      rw [List.map_cons, writeItems_cons, first, ih]
      rfl

section Document
variable {r : Result} (p : r.Texts)

/-- A part of a document as the writer sees it. -/
abbrev written (members : Members) : Except WriteFault (List Text) :=
  writeMembers .response (members.map fun (k, v) => (Value.text k, v))

theorem Result.Texts.written_errors :
    written (QueryError.memberIf (!r.errorValues.isEmpty) "errors" (.list r.errorValues)) =
      .ok (if p.errors.isEmpty then [] else ["\"errors\":[" ++ join "," p.errors ++ "]"]) := by
  have list : write .response (.list r.errorValues) = .ok (brackets .response p.errors) := by
    rw [write_list, Result.errorValues, writeItems_map p.writtenErrors]
    rfl
  have same : r.errorValues.isEmpty = p.errors.isEmpty := by
    rw [Result.errorValues, List.isEmpty_map]
    have errors := p.writtenErrors
    generalize r.errors.getD [] = es, p.errors = ts at errors
    cases errors <;> rfl
  rw [same]
  cases p.errors.isEmpty with
  | true => rfl
  | false => exact writeMembers_singleton rfl list

theorem Result.Texts.written_extensions :
    written (QueryError.memberIf r.hasExtensions "extensions" r.extensions) =
      .ok (p.extensions.map fun t => ("\"extensions\":" : Text) ++ t).toList := by
  have extensions := p.writtenExtensions
  unfold Result.hasExtensions
  generalize p.extensions = text at extensions
  cases extensions with
  | absent null =>
      rw [null]
      rfl
  | present notNull text =>
      split
      · rename_i null
        exact absurd null notNull
      · exact writeMembers_singleton rfl text

theorem Result.Texts.write_eq : write .response (Value.object r.document) = .ok p.body := by
  have data : written (QueryError.memberIf true "data" r.data) = .ok ["\"data\":" ++ p.data] :=
    writeMembers_singleton rfl p.writtenData
  have members : written r.document = .ok p.members := by
    rw [written, Result.document, List.map_append, List.map_append]
    exact writeMembers_append (writeMembers_append data p.written_errors) p.written_extensions
  show (written r.document).map (braces .response) = _
  rw [members]
  rfl

end Document

/-! ## Whoever asks -/

/-- An invocation that comes to a result, with room for its document, is answered with the text of
the document. -/
theorem Performed.answered {d : Deployment} {arrival : Arrival} {caches : Caches}
    (m : Performed d arrival caches) (p : m.result.Texts)
    (fits : within d.room (levels (Value.object m.result.document)) = true) {compress : Bool}
    (switch : d.enableCompression = .ok compress) (requestId : Value) (fresh : Text) :
    ∃ response, (handle d arrival requestId fresh caches).ending = .answered response ∧
      response.isBase64 = (compress && Http.AcceptEncoding.acceptsGzip m.event.headers) ∧
      response.content = some p.body := by
  have dumped : dumpDocument d.room (Value.object m.result.document) = .ok p.body :=
    dump_eq_ok_iff.mpr ⟨fits, p.write_eq⟩
  refine ⟨responseTo m.event.headers p.body compress, ?_, isBase64_responseTo ..,
    content_responseTo (dump_isPrintable dumped) m.event.headers compress⟩
  rw [handle_ending, m.verdict_eq, dumped, switch]
  rfl

end QueryGateway.Invocation
