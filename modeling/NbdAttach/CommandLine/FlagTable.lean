/-!
# Flags of the plugin

The plugin declares its flags in a table: each takes a value, or is switched on by its name. When
a table names a flag twice, the later entry decides (`FlagTable.kind?`).
-/

namespace NbdAttach

/-- How a flag takes its value. -/
inductive FlagKind
  /-- Switched on by `--name` or `--name=true`. -/
  | boolean
  /-- Always written `--name=value`. -/
  | valued
deriving DecidableEq, Repr, Inhabited

/-- The flags that are handed on to the plugin, by their names without dashes. -/
structure FlagTable where
  entries : List (String × FlagKind)
deriving Repr, Inhabited

namespace FlagTable

/-- The kind that the last entry for `name` gives it. Names are compared letter by letter, case
included. -/
def kind? (table : FlagTable) (name : String) : Option FlagKind :=
  table.entries.reverse.lookup name

/-- The flags that the plugin understands. -/
def plugin : FlagTable where
  entries :=
  [("accessEC2IAM", .valued),
   ("accessFile", .valued),
   ("accessId", .valued),
   ("accessKey", .valued),
   ("accessType", .valued),
   ("authVersion", .valued),
   ("baseURL", .valued),
   ("blockCacheFile", .valued),
   ("blockCacheMaxDirty", .valued),
   ("blockCacheNoVerify", .boolean),
   ("blockCacheNumProtected", .valued),
   ("blockCacheRecoverDirtyBlocks", .boolean),
   ("blockCacheSize", .valued),
   ("blockCacheSync", .boolean),
   ("blockCacheThreads", .valued),
   ("blockCacheTimeout", .valued),
   ("blockCacheWriteDelay", .valued),
   ("blockHashPrefix", .boolean),
   ("blockSize", .valued),
   ("cacert", .valued),
   ("compress", .valued),
   ("debug", .boolean),
   ("debug-http", .boolean),
   ("defaultContentEncoding", .valued),
   ("directIO", .boolean),
   ("encrypt", .valued),
   ("filename", .valued),
   ("force", .boolean),
   ("initialRetryPause", .valued),
   ("insecure", .boolean),
   ("keyLength", .valued),
   ("listBlocks", .boolean),
   ("listBlocksThreads", .valued),
   ("maxDownloadSpeed", .valued),
   ("maxRetryPause", .valued),
   ("maxUploadSpeed", .valued),
   ("md5CacheSize", .valued),
   ("md5CacheTime", .valued),
   ("minWriteDelay", .valued),
   ("noAutoDetect", .boolean),
   ("password", .valued),
   ("passwordFile", .valued),
   ("prefix", .valued),
   ("quiet", .boolean),
   ("readAhead", .valued),
   ("readAheadTrigger", .valued),
   ("readOnly", .boolean),
   ("region", .valued),
   ("rrs", .boolean),
   ("size", .valued),
   ("sse", .valued),
   ("sse-key-id", .valued),
   ("ssl", .boolean),
   ("statsFilename", .valued),
   ("storageClass", .valued),
   ("timeout", .valued),
   ("vhost", .boolean)]

end FlagTable

end NbdAttach
