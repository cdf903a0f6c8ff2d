import ModelCatalog.Json.Layout

namespace ModelCatalog
open Ordered Json Decimal

abbrev Unsigned8 := Bounded 0 255
abbrev Unsigned32 := Bounded 0 4294967295
abbrev Signed32 := Bounded (-2147483648) 2147483647

structure OllamaOptions where
  numCtx : Option Unsigned32 := none
  numPredict : Option Signed32 := none
  numBatch : Option Unsigned32 := none
  numKeep : Option Signed32 := none
  numThread : Option Unsigned32 := none
  numGpu : Option Signed32 := none
  topK : Option Unsigned32 := none
  repeatLastN : Option Signed32 := none
  repeatPenalty : Option Double := none
  mirostat : Option Unsigned8 := none
  mirostatEta : Option Double := none
  mirostatTau : Option Double := none
  useMmap : Option Bool := none
  useMlock : Option Bool := none
  keepAlive : Option Value := none
  think : Option Bool := none
deriving DecidableEq

structure ModelParams where
  temperature : Option Double := none
  topP : Option Double := none
  minP : Option Double := none
  maxTokens : Option Unsigned32 := none
  frequencyPenalty : Option Double := none
  presencePenalty : Option Double := none
  seed : Option Signed64 := none
  stop : List String := []
  reasoningEffort : Option String := none
  logitBias : Keyed String Double := ∅
  responseFormat : Option Value := none
  ollama : OllamaOptions := {}
  customParams : Extensions := ∅
deriving DecidableEq

namespace Json.Codec

def unsigned8 : Codec Unsigned8 := integer "u8" _ _ Integral.zero
def unsigned32 : Codec Unsigned32 := integer "u32" _ _ Integral.zero
def signed32 : Codec Signed32 := integer "i32" _ _

def ollamaOptions : Codec OllamaOptions :=
  Layout.codec "OllamaOptions"
    (.field (.optional "num_ctx" unsigned32) <|
      .field (.optional "num_predict" signed32) <|
      .field (.optional "num_batch" unsigned32) <|
      .field (.optional "num_keep" signed32) <|
      .field (.optional "num_thread" unsigned32) <|
      .field (.optional "num_gpu" signed32) <|
      .field (.optional "top_k" unsigned32) <|
      .field (.optional "repeat_last_n" signed32) <|
      .field (.optional "repeat_penalty" real) <|
      .field (.optional "mirostat" unsigned8) <|
      .field (.optional "mirostat_eta" real) <|
      .field (.optional "mirostat_tau" real) <|
      .field (.optional "use_mmap" bool) <|
      .field (.optional "use_mlock" bool) <|
      .field (.optional "keep_alive" value) <|
      .field (.optional "think" bool) .done)
    (fun o => (o.numCtx,o.numPredict,o.numBatch,o.numKeep,o.numThread,o.numGpu,o.topK,
      o.repeatLastN,o.repeatPenalty,o.mirostat,o.mirostatEta,o.mirostatTau,o.useMmap,
      o.useMlock,o.keepAlive,o.think,()))
    (fun (numCtx,numPredict,numBatch,numKeep,numThread,numGpu,topK,repeatLastN,
      repeatPenalty,mirostat,mirostatEta,mirostatTau,useMmap,useMlock,keepAlive,think,()) =>
      { numCtx,numPredict,numBatch,numKeep,numThread,numGpu,topK,repeatLastN,repeatPenalty,
        mirostat,mirostatEta,mirostatTau,useMmap,useMlock,keepAlive,think })

def modelParams : Codec ModelParams :=
  Layout.codec "ModelParams"
    (.field (.optional "temperature" real) <|
      .field (.optional "top_p" real) <|
      .field (.optional "min_p" real) <|
      .field (.optional "max_tokens" unsigned32) <|
      .field (.optional "frequency_penalty" real) <|
      .field (.optional "presence_penalty" real) <|
      .field (.optional "seed" signed64) <|
      .field (.nonempty "stop" (list text) [] List.isEmpty) <|
      .field (.optional "reasoning_effort" text) <|
      .field (.nonempty "logit_bias" (map real) ∅ Keyed.isEmpty) <|
      .field (.optional "response_format" value) <|
      .field (.nonempty "ollama" ollamaOptions {} (· = {})) <|
      .field (.nonempty "custom_params" extensions ∅ Keyed.isEmpty) .done)
    (fun p => (p.temperature,p.topP,p.minP,p.maxTokens,p.frequencyPenalty,p.presencePenalty,
      p.seed,p.stop,p.reasoningEffort,p.logitBias,p.responseFormat,p.ollama,p.customParams,()))
    (fun (temperature,topP,minP,maxTokens,frequencyPenalty,presencePenalty,seed,stop,
      reasoningEffort,logitBias,responseFormat,ollama,customParams,()) =>
      { temperature,topP,minP,maxTokens,frequencyPenalty,presencePenalty,seed,stop,
        reasoningEffort,logitBias,responseFormat,ollama,customParams })

end Json.Codec
end ModelCatalog
