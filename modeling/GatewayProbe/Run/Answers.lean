/-
How long do answers take to begin, and how smoothly do they go on?

Questions are drawn from a list and put to one model, one at a time.

* `questionsOf`, `questionsAt` — the questions of a text and of a file;
* `AnswerSample`, `AnswerSummary` — the numbers of one answer and of all;
* `answerRun` — the run.
-/
import GatewayProbe.Delivery.Basic
import GatewayProbe.Events.Body
import GatewayProbe.Plan.Choice
import GatewayProbe.Run.Basic
import GatewayProbe.Run.Requests

namespace GatewayProbe

/-- The questions used where no file gives others. -/
def usualQuestions : List String :=
  ["Tell me a short story about a robot learning to paint.",
   "Explain how photosynthesis works in simple terms.",
   "What are the main differences between machine learning and artificial intelligence?",
   "Describe the process of making bread from scratch.",
   "Write a haiku about the ocean.",
   "Explain the concept of recursion in programming with an example.",
   "What would happen if gravity suddenly became twice as strong?",
   "Tell me about the history of the internet in three paragraphs.",
   "How do solar panels convert sunlight into electricity?",
   "Write a dialogue between two characters meeting for the first time.",
   "Explain why the sky appears blue during the day.",
   "What are the benefits and drawbacks of renewable energy?",
   "Describe how a computer processor works at a basic level.",
   "Tell me about an interesting historical event from the 1960s.",
   "How do vaccines help prevent diseases?",
   "Write a short poem about autumn leaves.",
   "Explain the water cycle and its importance to life on Earth.",
   "What makes a good leader, and can leadership skills be learned?",
   "Describe the process of evolution by natural selection.",
   "How do search engines like Google find and rank web pages?"]

/-- The lines of a text that are neither blank nor comments, trimmed. -/
def questionsOf (text : String) : List String :=
  ((Text.lines text).map Text.trim).filter fun line => line ≠ "" && line.toList.head? ≠ some '#'

/-- Why a file gives no questions. -/
inductive QuestionFault where
  | unreadable (fault : FileFault)
  | empty (path : String)
  deriving DecidableEq, Repr

/-- The wording of a fault. -/
def QuestionFault.message : QuestionFault → String
  | .unreadable fault => fault.message
  | .empty path => "no questions in " ++ path

/-- The questions in the file at a path, or the usual ones where there is none. -/
def questionsAt (files : Files) (path : String) : Except QuestionFault (List String) :=
  if !files.contains path then .ok usualQuestions
  else match files.readText path with
    | .error fault => .error (.unreadable fault)
    | .ok text =>
      if (questionsOf text).isEmpty then .error (.empty path) else .ok (questionsOf text)

/-- The numbers of one answer. -/
structure AnswerSample where
  question : String
  endpoint : Option String := none
  chunks : Nat := 0
  chars : Nat := 0
  /-- Seconds until the first text was there. -/
  firstToken : Option Float := none
  totalTime : Float := 0
  evidence : Evidence := {}
  quality : Smoothness := .singleChunk
  error : Option String := none

namespace AnswerSample

/-- Some text arrived and nothing went wrong. -/
def success (s : AnswerSample) : Bool := s.error.isNone && s.chunks > 0

/-- The record of a sample. -/
def record (s : AnswerSample) (name : String) : Record :=
  match s.error with
  | some e => ⟨name, .fail, e⟩
  | none =>
    if s.chunks = 0 then ⟨name, .fail, "no content received"⟩
    else ⟨name, .pass, "TTFT " ++ Delivery.time (s.firstToken.getD 0) ++
      s!", {s.chunks} chunks, {s.quality.name}"⟩

end AnswerSample

/-- The numbers of all answers. -/
structure AnswerSummary where
  total : Nat := 0
  successful : Nat := 0
  firstTokenMin : Option Float := none
  firstTokenAvg : Option Float := none
  firstTokenMax : Option Float := none
  /-- How many answers had each quality, for the qualities that occurred. -/
  quality : List (Smoothness × Nat) := []

/-- The mean of some numbers, if there are any. -/
def mean? (xs : List Float) : Option Float :=
  if xs.isEmpty then none else some (sum xs / Float.ofNat xs.length)

namespace AnswerSummary

/-- Sums up samples. Only those that succeeded count. -/
def ofSamples (samples : List AnswerSample) : AnswerSummary :=
  let good := samples.filter AnswerSample.success
  let times := (good.filterMap AnswerSample.firstToken).filter (· > 0)
  { total := samples.length
    successful := good.length
    firstTokenMin := if times.isEmpty then none else some (least times)
    firstTokenAvg := mean? times
    firstTokenMax := if times.isEmpty then none else some (greatest times)
    quality := (Smoothness.all.map fun q => (q, good.countP fun s => s.quality = q)).filter
      fun count => count.2 ≠ 0 }

/-- The share of answers that succeeded, in percent. -/
def successShare (s : AnswerSummary) : Float :=
  if s.total = 0 then 0 else Float.ofNat s.successful * 100.0 / Float.ofNat s.total

end AnswerSummary

/-- What a run found out. -/
structure AnswerOutcome where
  model : String
  samples : List AnswerSample
  summary : AnswerSummary
  report : Report

/-- How many questions are put, and which. -/
structure AnswerOptions where
  count : Nat := 5
  questions : List String := usualQuestions
  draws : Draws
  maxTokens : Nat := 200
  temperature : Float := 0.7

/-- The request for an answer. -/
def AnswerOptions.body (o : AnswerOptions) (model question : String) : Json :=
  ((Body.chat model question true).set "max_tokens" (.ofNat o.maxTokens)).set
    "temperature" (.ofFloat o.temperature)

/-- Measures a reply. -/
def measureAnswer (setup : Setup) (question : String) (reply : Reply) : AnswerSample :=
  let s : AnswerSample :=
    { question, endpoint := reply.head.endpoint, totalTime := seconds reply.endOffset }
  if !reply.head.succeeded then { s with error := some (statusError reply).message }
  else match reply.capture setup.client.budget .openAi with
    | .error e => { s with error := some e.message }
    | .ok capture =>
      let evidence := Evidence.ofArrivals capture.arrivals
      { s with
        chunks := capture.pieceCount
        chars := capture.charCount
        firstToken := capture.firstContent?.map seconds
        totalTime := seconds capture.total
        evidence
        quality := evidence.smoothness setup.settings.timing }

/-- Puts one question. -/
def askQuestion (setup : Setup) (model : String) (options : AnswerOptions) (question : String) :
    Session AnswerSample := do
  let shown := Text.excerpt 50 question
  match ← setup.client.postValue Route.chat (options.body model question) with
  | .error e => return { question := shown, error := some e.message }
  | .ok reply => return measureAnswer setup shown reply

/-- Draws and puts `count` questions. -/
def askQuestions (setup : Setup) (model : String) (options : AnswerOptions) :
    Nat → Draws → Session (List AnswerSample)
  | 0, _ => return []
  | count + 1, draws =>
    match draws.choose? options.questions with
    | (none, _) => return []
    | (some question, draws) => do
      let sample ← askQuestion setup model options question
      return sample :: (← askQuestions setup model options count draws)

/-- The records of samples, the first of them of a given number. -/
def sampleRecords : Nat → List AnswerSample → List Record
  | _, [] => []
  | n, sample :: rest => sample.record s!"latency/q{n}" :: sampleRecords (n + 1) rest

/-- Puts questions to a model. -/
def answerRun (setup : Setup) (model : String) (options : AnswerOptions) :
    Session AnswerOutcome := do
  let samples ← askQuestions setup model options options.count options.draws
  return { model, samples
           summary := .ofSamples samples
           report := ⟨"latency", sampleRecords 1 samples⟩ }

end GatewayProbe
