import ModelCatalog.Json.Layout

namespace ModelCatalog
open Json

structure CatalogConfig where
  verifyTimeout : Nat := 10
  listTimeout : Nat := 15
  maxConcurrency : Nat := 8
  skipDisabled : Bool := true
  userAgent : Option String := none
deriving DecidableEq

def CatalogConfig.concurrency (c : CatalogConfig) : Nat := max c.maxConcurrency 1

namespace Json.Codec

def seconds : Codec Nat := word "u64"

def catalogConfig : Codec CatalogConfig :=
  Layout.codec "CatalogConfig"
    (.field (.defaulted "verify_timeout_secs" seconds 10) <|
      .field (.defaulted "list_timeout_secs" seconds 15) <|
      .field (.defaulted "max_concurrency" size 8) <|
      .field (.defaulted "skip_disabled" bool true) <|
      .field (.defaulted "user_agent" (option text) none) .done)
    (fun c => (c.verifyTimeout,c.listTimeout,c.maxConcurrency,c.skipDisabled,c.userAgent,()))
    (fun (verifyTimeout,listTimeout,maxConcurrency,skipDisabled,userAgent,()) =>
      { verifyTimeout,listTimeout,maxConcurrency,skipDisabled,userAgent })

end Json.Codec
end ModelCatalog
