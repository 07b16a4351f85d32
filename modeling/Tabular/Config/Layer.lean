import Tabular.Json.Expect

/-!
# Layers of configuration

A configuration file gives some of the settings. Two layers are merged field by
field; a section that is absent gives nothing.
-/

set_option autoImplicit false

namespace Tabular.Config

structure CacheLayer where
  enabled : Option Bool
  maxEntries : Option Nat
  lifetime : Option Nat
deriving DecidableEq

structure DatabaseLayer where
  url : Option String
  statementTimeout : Option Nat
  busyTimeout : Option Nat
  cache : CacheLayer
deriving DecidableEq

structure Layer where
  database : DatabaseLayer
  unknown : List String
deriving DecidableEq

def CacheLayer.empty : CacheLayer := ⟨none, none, none⟩

def DatabaseLayer.empty : DatabaseLayer := ⟨none, none, none, .empty⟩

def Layer.empty : Layer := ⟨.empty, []⟩

def CacheLayer.orElse (upper lower : CacheLayer) : CacheLayer :=
  ⟨upper.enabled <|> lower.enabled, upper.maxEntries <|> lower.maxEntries,
    upper.lifetime <|> lower.lifetime⟩

def DatabaseLayer.orElse (upper lower : DatabaseLayer) : DatabaseLayer :=
  ⟨upper.url <|> lower.url, upper.statementTimeout <|> lower.statementTimeout,
    upper.busyTimeout <|> lower.busyTimeout, upper.cache.orElse lower.cache⟩

open Json

def skipMember {σ : Type} (_ : String) (v : σ) (s : List Char) : Reading σ :=
  (skipValue s).map fun rest => (v, rest)

def cacheSection : Section CacheLayer where
  title := "SchemaCacheFileConfig"
  fields := [
    ("enabled", fun v s =>
      (expectOptional expectBool s).map fun (x, r) => ({ v with enabled := x }, r)),
    ("max_entries", fun v s =>
      (expectOptional expectCount s).map fun (x, r) => ({ v with maxEntries := x }, r)),
    ("ttl_secs", fun v s =>
      (expectOptional expectCount s).map fun (x, r) => ({ v with lifetime := x }, r))]
  other := skipMember

def databaseSection : Section DatabaseLayer where
  title := "DatabaseFileConfig"
  fields := [
    ("url", fun v s => (expectOptional expectText s).map fun (x, r) => ({ v with url := x }, r)),
    ("statement_timeout_secs", fun v s =>
      (expectOptional expectCount s).map fun (x, r) => ({ v with statementTimeout := x }, r)),
    ("busy_timeout_secs", fun v s =>
      (expectOptional expectCount s).map fun (x, r) => ({ v with busyTimeout := x }, r)),
    ("schema_cache", fun v s =>
      (expectOptional (expectSection cacheSection .empty) s).map fun (x, r) =>
        ({ v with cache := x.getD .empty }, r))]
  other := skipMember

def layerSection : Section Layer where
  title := "FileConfig"
  fields := [
    ("database", fun v s =>
      (expectOptional (expectSection databaseSection .empty) s).map fun (x, r) =>
        ({ v with database := x.getD .empty }, r))]
  other := fun name v s =>
    (readValue (depthLimit - 1) s).map fun (_, r) =>
      ({ v with unknown := if v.unknown.contains name then v.unknown else v.unknown ++ [name] }, r)

def readLayer (s : List Char) : Except Failure Layer :=
  match expectObject layerSection .empty s with
  | .error e => .error e
  | .ok (layer, rest) => readEnd layer rest

end Tabular.Config
