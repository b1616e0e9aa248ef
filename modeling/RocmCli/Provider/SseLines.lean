import RocmCli.Support.Json

namespace RocmCli
namespace Provider

open Text (trim stripPrefix fromUtf8Lossy)

/-!
# The lines of a streamed answer

A server sends events as lines of a text.  The emitter collects bytes into
lines, whatever pieces they come in, and hands the events on.  What it hands on
depends only on the lines up to the first event that says the answer is done.
-/

abbrev Bytes := List UInt8

structure ProviderStreamEvent where
  content : String
  done : Bool
  deriving DecidableEq, Repr

def doneEvent : ProviderStreamEvent := ⟨"", true⟩

/-! ## One line -/

/-- The content of the first choice, under one of its two keys. -/
def choiceContent (payload : Json) (key : String) : Option String :=
  ((((payload.get "choices").bind Json.asArray).bind List.head?).bind fun choice =>
    (choice.get key).bind fun message => message.get "content").bind Json.asStr

/-- The event of a line, if it has one.  `fromStr` reads JSON. -/
@[irreducible] def parseOpenaiSseLine (fromStr : String -> Except ErrorChain Json) (line : String) :
    Except ErrorChain (Option ProviderStreamEvent) :=
  match stripPrefix "data:" (trim line) with
  | none => .ok none
  | some data =>
      if trim data = "[DONE]" then .ok (some doneEvent)
      else
        match fromStr (trim data) with
        | .error error => .error (error.context "failed to parse local provider SSE data")
        | .ok payload =>
            .ok (((choiceContent payload "delta").or (choiceContent payload "message")).map
              fun content => ⟨content, false⟩)

/-! ## The emitter -/

/-- Why a body could not be read, and whether the connection ended early. -/
structure BodyError where
  chain : ErrorChain
  atEof : Bool
  deriving DecidableEq, Repr

/-- A failure, and the events that were handed on before it. -/
structure Broken where
  error : BodyError
  delivered : List ProviderStreamEvent
  deriving DecidableEq, Repr

structure OpenaiSseEmitter where
  pending : Bytes
  done : Bool
  delivered : List ProviderStreamEvent
  deriving DecidableEq, Repr

def newline : UInt8 := 0x0a

def trimEndReturns (text : String) : String :=
  String.ofList (text.toList.reverse.dropWhile (· == '\r')).reverse

def lineText (line : Bytes) : String := trimEndReturns (fromUtf8Lossy line)

namespace OpenaiSseEmitter

def new : OpenaiSseEmitter := ⟨[], false, []⟩

def fail (emitter : OpenaiSseEmitter) {R : Type} (error : BodyError) : Except Broken R :=
  .error ⟨error, emitter.delivered⟩

section Emit

variable (fromStr : String -> Except ErrorChain Json)

def emitLine (line : String) (emitter : OpenaiSseEmitter) : Except Broken OpenaiSseEmitter :=
  if emitter.done then .ok emitter
  else
    match parseOpenaiSseLine fromStr line with
    | .error error => emitter.fail ⟨error, false⟩
    | .ok none => .ok emitter
    | .ok (some event) =>
        .ok { emitter with done := event.done, delivered := emitter.delivered ++ [event] }

def emitPendingLine (emitter : OpenaiSseEmitter) : Except Broken OpenaiSseEmitter :=
  emitLine fromStr (lineText emitter.pending) { emitter with pending := [] }

def pushBytes : Bytes -> OpenaiSseEmitter -> Except Broken OpenaiSseEmitter
  | [], emitter => .ok emitter
  | byte :: rest, emitter =>
      if byte = newline then
        match emitPendingLine fromStr emitter with
        | .error broken => .error broken
        | .ok emitter => pushBytes rest emitter
      else pushBytes rest { emitter with pending := emitter.pending ++ [byte] }

/-- Hand on an unfinished line, and the end if no line said it. -/
def finish (emitter : OpenaiSseEmitter) : Except Broken (List ProviderStreamEvent) :=
  match if emitter.pending.isEmpty then .ok emitter else emitPendingLine fromStr emitter with
  | .error broken => .error broken
  | .ok emitter =>
      .ok (if emitter.done then emitter.delivered else emitter.delivered ++ [doneEvent])

end Emit

end OpenaiSseEmitter

/-! ## The events of a body -/

/-- The finished lines of a body, and what stands behind the last of them. -/
def splitLines (pending : Bytes) : Bytes -> List Bytes × Bytes
  | [] => ([], pending)
  | byte :: rest =>
      if byte = newline then
        let later := splitLines [] rest
        (pending :: later.1, later.2)
      else splitLines (pending ++ [byte]) rest

def finishedLines (body : Bytes) : List Bytes := (splitLines [] body).1

/-- The lines behind a pending start.  The last one may lack its end. -/
def linesFrom (pending body : Bytes) : List Bytes :=
  let split := splitLines pending body
  if split.2.isEmpty then split.1 else split.1 ++ [split.2]

section Events

variable (fromStr : String -> Except ErrorChain Json)

/-- The events of some lines up to the first that ends the answer, or to the
first line that cannot be read. -/
def eventsOf : List Bytes -> List ProviderStreamEvent × Option ErrorChain
  | [] => ([], none)
  | line :: rest =>
      match parseOpenaiSseLine fromStr (lineText line) with
      | .error error => ([], some error)
      | .ok none => eventsOf rest
      | .ok (some event) =>
          if event.done then ([event], none)
          else (event :: (eventsOf rest).1, (eventsOf rest).2)

/-- What some lines amount to behind events already handed on: their events
with one end, or the line that cannot be read. -/
def answerFrom (delivered : List ProviderStreamEvent) (lines : List Bytes) :
    Except Broken (List ProviderStreamEvent) :=
  match eventsOf fromStr lines with
  | (events, some error) => .error ⟨⟨error, false⟩, delivered ++ events⟩
  | (events, none) => .ok (delivered ++
      if events.any ProviderStreamEvent.done then events else events ++ [doneEvent])

/-- What reading a body amounts to. -/
def answerOf (body : Bytes) : Except Broken (List ProviderStreamEvent) :=
  answerFrom fromStr [] (linesFrom [] body)

end Events

/-- What was handed on, whatever the outcome. -/
def deliveredBy : Except Broken (List ProviderStreamEvent) -> List ProviderStreamEvent
  | .ok events => events
  | .error broken => broken.delivered

/-! ## The emitter reads lines -/

section Reading

variable {fromStr : String -> Except ErrorChain Json}

open OpenaiSseEmitter

theorem parseOpenaiSseLine_done {line : String} {event : ProviderStreamEvent}
    (parsed : parseOpenaiSseLine fromStr line = .ok (some event)) (done : event.done = true) :
    event = doneEvent := by
  unfold parseOpenaiSseLine at parsed
  cases stripped : stripPrefix "data:" (trim line) with
  | none =>
      rw [stripped] at parsed
      exact nomatch parsed
  | some data =>
      rw [stripped] at parsed
      dsimp only at parsed
      by_cases ends : trim data = "[DONE]"
      · rw [if_pos ends] at parsed
        exact (Option.some.inj (Except.ok.inj parsed)).symm
      · rw [if_neg ends] at parsed
        cases read : fromStr (trim data) with
        | error error =>
            rw [read] at parsed
            exact nomatch parsed
        | ok payload =>
            rw [read] at parsed
            obtain ⟨content, _, isEvent⟩ := Option.map_eq_some_iff.mp (Except.ok.inj parsed)
            rw [← isEvent] at done
            exact nomatch done

theorem pushBytes_append (front back : Bytes) (emitter : OpenaiSseEmitter) :
    pushBytes fromStr (front ++ back) emitter =
      (pushBytes fromStr front emitter).bind (pushBytes fromStr back) := by
  induction front generalizing emitter with
  | nil => rfl
  | cons byte front ih =>
      rw [List.cons_append, pushBytes, pushBytes]
      by_cases ends : byte = newline
      · rw [if_pos ends, if_pos ends]
        cases emitPendingLine fromStr emitter with
        | error broken => rfl
        | ok next => exact ih next
      · rw [if_neg ends, if_neg ends]
        exact ih _

/-- An emitter after a body: it read the finished lines and holds the rest. -/
def afterLines (fromStr : String -> Except ErrorChain Json) (emitter : OpenaiSseEmitter) (lines : List Bytes) (unfinished : Bytes) :
    Except Broken OpenaiSseEmitter :=
  match eventsOf fromStr lines with
  | (events, some error) => .error ⟨⟨error, false⟩, emitter.delivered ++ events⟩
  | (events, none) =>
      .ok ⟨unfinished, events.any ProviderStreamEvent.done, emitter.delivered ++ events⟩

variable {emitter : OpenaiSseEmitter}

/-- An emitter that is done only keeps the unfinished line. -/
theorem pushBytes_of_done (body : Bytes) (done : emitter.done = true) :
    pushBytes fromStr body emitter =
      .ok { emitter with pending := (splitLines emitter.pending body).2 } := by
  induction body generalizing emitter with
  | nil => rfl
  | cons byte rest ih =>
      rw [pushBytes, splitLines]
      by_cases ends : byte = newline
      · rw [if_pos ends, if_pos ends, emitPendingLine, emitLine, if_pos done]
        exact ih done
      · rw [if_neg ends, if_neg ends]
        exact ih done

theorem pushBytes_eq (body : Bytes) (isOpen : emitter.done = false) :
    pushBytes fromStr body emitter = afterLines fromStr emitter
      (splitLines emitter.pending body).1 (splitLines emitter.pending body).2 := by
  induction body generalizing emitter with
  | nil =>
      obtain ⟨pending, done, delivered⟩ := emitter
      cases isOpen
      simp [pushBytes, splitLines, afterLines, eventsOf]
  | cons byte rest ih =>
      rw [pushBytes, splitLines]
      by_cases ends : byte = newline
      · rw [if_pos ends, if_pos ends, emitPendingLine, emitLine, isOpen, if_neg Bool.false_ne_true]
        dsimp only
        unfold afterLines
        rw [eventsOf]
        cases parsed : parseOpenaiSseLine fromStr (lineText emitter.pending) with
        | error error => simp [fail]
        | ok found =>
            cases found with
            | none => exact @ih ⟨[], false, emitter.delivered⟩ rfl
            | some event =>
                dsimp only
                by_cases last : event.done = true
                · rw [pushBytes_of_done rest last, if_pos last]
                  simp [last]
                · have later := @ih
                    ⟨[], event.done, emitter.delivered ++ [event]⟩ (Bool.eq_false_iff.mpr last)
                  rw [later, if_neg last, afterLines]
                  rcases eventsOf fromStr (splitLines [] rest).1 with ⟨events, _ | error⟩
                  · simp [last]
                  · simp
      · rw [if_neg ends, if_neg ends]
        exact ih isOpen

/-- Finishing reads the unfinished line. -/
theorem finish_eq (emitter : OpenaiSseEmitter) (isOpen : emitter.done = false) :
    finish fromStr emitter =
      answerFrom fromStr emitter.delivered (linesFrom emitter.pending []) := by
  have lines : linesFrom emitter.pending [] =
      if emitter.pending.isEmpty then [] else [emitter.pending] := rfl
  rw [lines]
  unfold answerFrom
  unfold finish
  by_cases empty : emitter.pending.isEmpty = true
  · simp [empty, isOpen, eventsOf]
  · rw [if_neg empty, if_neg empty, emitPendingLine, emitLine, isOpen,
      if_neg Bool.false_ne_true, eventsOf]
    cases parsed : parseOpenaiSseLine fromStr (lineText emitter.pending) with
    | error error => simp [fail]
    | ok found =>
        cases found with
        | none => simp [eventsOf]
        | some event =>
            by_cases last : event.done = true
            · simp [last]
            · simp [last, eventsOf]

theorem finish_of_done (emitter : OpenaiSseEmitter) (done : emitter.done = true) :
    finish fromStr emitter = .ok emitter.delivered := by
  unfold finish
  by_cases empty : emitter.pending.isEmpty = true
  · simp [empty, done]
  · simp [empty, emitPendingLine, emitLine, done]

/-- The events of some lines and then of more, unless the first end the answer. -/
theorem eventsOf_append (lines more : List Bytes) :
    eventsOf fromStr (lines ++ more) =
      match eventsOf fromStr lines with
      | (events, some error) => (events, some error)
      | (events, none) =>
          if events.any ProviderStreamEvent.done then (events, none)
          else (events ++ (eventsOf fromStr more).1, (eventsOf fromStr more).2) := by
  induction lines with
  | nil => simp [eventsOf]
  | cons line rest ih =>
      rw [List.cons_append, eventsOf, eventsOf]
      cases parseOpenaiSseLine fromStr (lineText line) with
      | error error => rfl
      | ok found =>
          cases found with
          | none => exact ih
          | some event =>
              by_cases last : event.done = true
              · simp [last]
              · rcases read : eventsOf fromStr rest with ⟨events, _ | error⟩
                · by_cases ended : events.any ProviderStreamEvent.done = true
                  · simp [last, ih, read, ended]
                  · simp [last, ih, read, ended]
                · simp [last, ih, read]

theorem linesFrom_eq (pending body : Bytes) :
    linesFrom pending body =
      (splitLines pending body).1 ++ linesFrom (splitLines pending body).2 [] := by
  unfold linesFrom
  by_cases empty : (splitLines pending body).2.isEmpty = true
  · simp [splitLines, empty]
  · simp [splitLines, empty]

/-- Reading on and finishing gives the answer of the lines from here on. -/
theorem pushBytes_finish_from (body : Bytes) (isOpen : emitter.done = false) :
    (pushBytes fromStr body emitter).bind (finish fromStr) =
      answerFrom fromStr emitter.delivered (linesFrom emitter.pending body) := by
  rw [pushBytes_eq body isOpen, linesFrom_eq, answerFrom, eventsOf_append, afterLines]
  rcases eventsOf fromStr (splitLines emitter.pending body).1 with ⟨events, _ | error⟩
  · dsimp only [Except.bind]
    by_cases ended : events.any ProviderStreamEvent.done = true
    · rw [finish_of_done _ ended]
      simp [ended]
    · rw [finish_eq _ (Bool.eq_false_iff.mpr ended), answerFrom]
      dsimp only
      rcases eventsOf fromStr (linesFrom _ []) with ⟨more, _ | error⟩
      · by_cases endsLater : more.any ProviderStreamEvent.done = true
        · simp [ended, endsLater]
        · simp [ended, endsLater]
      · simp [ended]
  · rfl

/-- Reading all of a body and finishing gives its answer. -/
theorem pushBytes_finish (body : Bytes) :
    (pushBytes fromStr body .new).bind (finish fromStr) = answerOf fromStr body :=
  pushBytes_finish_from body rfl

theorem eventsOf_ends (lines : List Bytes) :
    (eventsOf fromStr lines).1.any ProviderStreamEvent.done = false ∨
      exists front, (eventsOf fromStr lines).1 = front ++ [doneEvent] ∧
        forall event, event ∈ front -> event.done = false := by
  induction lines with
  | nil => exact Or.inl rfl
  | cons line rest ih =>
      rw [eventsOf]
      cases parsed : parseOpenaiSseLine fromStr (lineText line) with
      | error error => exact Or.inl rfl
      | ok found =>
          cases found with
          | none => exact ih
          | some event =>
              dsimp only
              by_cases last : event.done = true
              · rw [if_pos last, parseOpenaiSseLine_done parsed last]
                exact Or.inr ⟨[], rfl, nofun⟩
              · rw [if_neg last]
                rcases ih with none' | ⟨front, whole, before⟩
                · exact Or.inl (by simp [last, none'])
                · refine Or.inr ⟨event :: front, by rw [whole]; rfl, ?_⟩
                  intro other member
                  rcases List.mem_cons.mp member with rfl | later
                  · exact Bool.eq_false_iff.mpr last
                  · exact before other later

/-- An answer has one end, and nothing behind it. -/
theorem answerOf_ends {body : Bytes} {events : List ProviderStreamEvent}
    (answer : answerOf fromStr body = .ok events) :
    exists front, events = front ++ [doneEvent] ∧
      forall event, event ∈ front -> event.done = false := by
  unfold answerOf answerFrom at answer
  have ends := @eventsOf_ends fromStr (linesFrom [] body)
  revert answer ends
  rcases eventsOf fromStr (linesFrom [] body) with ⟨found, _ | error⟩
  · intro answer ends
    rw [← Except.ok.inj answer, List.nil_append]
    by_cases ended : found.any ProviderStreamEvent.done = true
    · rw [if_pos ended]
      exact ends.resolve_left fun none' => absurd ended (Bool.eq_false_iff.mp none')
    · rw [if_neg ended]
      refine ⟨found, rfl, ?_⟩
      intro event member
      apply Bool.eq_false_iff.mpr
      intro done
      exact ended (List.any_eq_true.mpr ⟨event, member, done⟩)
  · exact nofun

/-! ## What was handed on only grows -/

theorem emitPendingLine_delivers :
    match emitPendingLine fromStr emitter with
    | .ok next => emitter.delivered <+: next.delivered
    | .error broken => emitter.delivered <+: broken.delivered := by
  unfold emitPendingLine emitLine
  by_cases done : emitter.done = true
  · simp [done]
  · rw [if_neg done]
    rcases parseOpenaiSseLine fromStr (lineText emitter.pending) with error | _ | event
    · simp [fail]
    · simp
    · simp

theorem pushBytes_delivers (body : Bytes) (emitter : OpenaiSseEmitter) :
    match pushBytes fromStr body emitter with
    | .ok next => emitter.delivered <+: next.delivered
    | .error broken => emitter.delivered <+: broken.delivered := by
  induction body generalizing emitter with
  | nil => exact List.prefix_rfl
  | cons byte rest ih =>
      rw [pushBytes]
      by_cases ends : byte = newline
      · rw [if_pos ends]
        have first := @emitPendingLine_delivers fromStr emitter
        revert first
        rcases emitPendingLine fromStr emitter with broken | next
        · exact id
        · intro first
          have later := ih next
          dsimp only
          revert later
          rcases pushBytes fromStr rest next with broken | last
          · exact List.IsPrefix.trans first
          · exact List.IsPrefix.trans first
      · rw [if_neg ends]
        exact ih _

theorem finish_delivers (emitter : OpenaiSseEmitter) :
    emitter.delivered <+: deliveredBy (finish fromStr emitter) := by
  unfold finish
  by_cases empty : emitter.pending.isEmpty = true
  · rw [if_pos empty]
    by_cases done : emitter.done = true <;> simp [deliveredBy, done]
  · rw [if_neg empty]
    have first := @emitPendingLine_delivers fromStr emitter
    revert first
    rcases emitPendingLine fromStr emitter with broken | next
    · exact id
    · intro first
      by_cases done : next.done = true
      · simpa [deliveredBy, done] using first
      · simp only [deliveredBy, done]
        exact List.IsPrefix.trans first (List.prefix_append _ _)

/-- A part of a body hands on the start of what the whole body does. -/
theorem delivers_part {part body : Bytes} (starts : part <+: body) :
    match pushBytes fromStr part .new with
    | .ok next => next.delivered <+: deliveredBy (answerOf fromStr body)
    | .error broken => answerOf fromStr body = .error broken := by
  obtain ⟨behind, rfl⟩ := starts
  rw [← pushBytes_finish, pushBytes_append]
  rcases pushBytes fromStr part .new with broken | next
  · rfl
  · have later := @pushBytes_delivers fromStr behind next
    show next.delivered <+: deliveredBy ((pushBytes fromStr behind next).bind (finish fromStr))
    revert later
    rcases pushBytes fromStr behind next with broken | last
    · exact id
    · exact fun later => List.IsPrefix.trans later (finish_delivers last)

end Reading

end Provider
end RocmCli
