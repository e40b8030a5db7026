import CleanRoom.Library.GoFiles

/-!
# The encryptor of the blob mount

The component stores each file as a sequence of chunks on a second mount. A chunk
is a nonce followed by the sealed block, and after the last chunk stand eight
bytes with the length of the padding in the last block. Calls are modelled one after
another; the nonce that `rand.Read` draws is an argument. A 64-bit result is reduced
once, at the end of an expression of sums and products.
-/

namespace CleanRoom.BlobFuse

open ByteFile BigEndian GoFiles

def authTagSize : Nat := 16
def nonceSize : Nat := 12
def metaSize : Nat := authTagSize + nonceSize
def paddingLengthSize : Nat := 8

def isAesKey (key : Bytes) : Bool :=
  key.length == 16 || key.length == 24 || key.length == 32

/-- The AEAD that `cipher.NewGCM` gives, without additional data. -/
structure AesGcm where
  encrypt : Bytes → Bytes → Bytes → Bytes
  decrypt : Bytes → Bytes → Bytes → Option Bytes
  decrypt_encrypt : ∀ key nonce plain, isAesKey key = true → nonce.length = nonceSize →
    decrypt key nonce (encrypt key nonce plain) = some plain
  length_encrypt : ∀ key nonce plain, isAesKey key = true → nonce.length = nonceSize →
    (encrypt key nonce plain).length = plain.length + authTagSize

abbrev Nonce := { bytes : Bytes // bytes.length = nonceSize }

structure Encryptor where
  blockSize : Nat
  encryptionKey : Bytes
  /-- `filepath.Join(e.mountPointCipher, name)` -/
  path : String → String
  positive : 0 < blockSize
  fits : blockSize + metaSize < 2 ^ 63

def Encryptor.chunkSize (enc : Encryptor) : Nat := enc.blockSize + metaSize

structure LastChunkMeta where
  farthestBlockSeen : Int
  paddingLength : Int
deriving DecidableEq

def LastChunkMeta.none : LastChunkMeta := ⟨-1, 0⟩

structure Mount where
  disk : Disk
  handleMap : String → Option OsFile
  lastChunkMetaMap : String → Option LastChunkMeta

/-- The caller's handle of an opened file. -/
structure Handle where
  path : String
  size : Int
deriving DecidableEq

structure ObjAttr where
  path : String
  size : Int
  isDir : Bool
deriving DecidableEq

def onDisk {Value : Type} (body : Go Disk Value) : Go Mount Value :=
  Go.within Mount.disk (fun mount disk => { mount with disk := disk }) body

def storeHandle (name : String) (handle : OsFile) : Go Mount Unit :=
  Go.modify fun mount =>
    { mount with handleMap := Function.update mount.handleMap name (some handle) }

def storeMeta (name : String) (lastChunkMeta : LastChunkMeta) : Go Mount Unit :=
  Go.modify fun mount =>
    { mount with
      lastChunkMetaMap := Function.update mount.lastChunkMetaMap name (some lastChunkMeta) }

def forget (name : String) : Go Mount Unit :=
  Go.modify fun mount =>
    { mount with
      handleMap := Function.update mount.handleMap name none
      lastChunkMetaMap := Function.update mount.lastChunkMetaMap name none }

def encryptChunk (gcm : AesGcm) (data key : Bytes) (nonce : Nonce) : Except GoError Bytes :=
  if isAesKey key then .ok (gcm.encrypt key nonce.1 data) else .error .keySize

def decryptChunk (gcm : AesGcm) (cipherText nonce key : Bytes) : Except GoError Bytes :=
  if isAesKey key then
    match gcm.decrypt key nonce cipherText with
    | some plainText => .ok plainText
    | none => .error .authentication
  else .error .keySize

def fromExcept {Value : Type} (result : Except GoError Value) : Go Mount Value :=
  fun mount => (result, mount)

def readPaddingLength (fileHandle : OsFile) (currentFileSize : Int) : Go Disk Int := do
  let paddingLengthBytes ←
    Disk.readAt fileHandle paddingLengthSize (currentFileSize - paddingLengthSize)
  pure (getInt64 paddingLengthBytes)

def writePaddingLength (fileHandle : OsFile) (lastChunkMeta : LastChunkMeta) (blockSize : Nat) :
    Go Disk Unit :=
  let endOffset := int64 ((lastChunkMeta.farthestBlockSeen + 1) * (blockSize + metaSize))
  Disk.writeAt fileHandle (putInt64 lastChunkMeta.paddingLength) endOffset

def checkForActualFileSize (fileHandle : OsFile) (currentFileSize blockSize : Int) :
    Go Disk Int := do
  let totalBlocks := currentFileSize.tdiv (blockSize + metaSize)
  if currentFileSize < int64 (totalBlocks * (blockSize + metaSize) + paddingLengthSize) then
    pure 0
  else do
    let paddingLength ← readPaddingLength fileHandle currentFileSize
    pure (int64 (currentFileSize - (paddingLength + totalBlocks * metaSize + paddingLengthSize)))

/-- The part of `getFileHandleAndLastChunkMeta` for a file without a handle. The
handle enters its table before the metadata is known. -/
def openForWriting (enc : Encryptor) (fileName : String) : Go Mount (OsFile × LastChunkMeta) := do
  let fileHandle ← Go.mapError (.wrapped s!"failed to open file {fileName}: ")
    (onDisk (Disk.openFile (enc.path fileName) false))
  storeHandle fileName fileHandle
  let fileAttr ← Go.mapError (.wrapped s!"failed to get file attributes for {fileName}: ")
    (onDisk (Disk.fileStat fileHandle))
  let totalBlocks := fileAttr.size / enc.chunkSize
  let paddingBlockSize := fileAttr.size % enc.chunkSize
  if paddingBlockSize = 0 then do
    storeMeta fileName .none
    pure (fileHandle, .none)
  else if paddingBlockSize ≠ paddingLengthSize then
    Go.throw (.text s!"unexpected padding block size for {fileName}: {paddingBlockSize}")
  else do
    let paddingLength ← Go.mapError (.wrapped s!"failed to read padding length for {fileName}: ")
      (onDisk (readPaddingLength fileHandle fileAttr.size))
    let lastChunkMeta : LastChunkMeta := ⟨totalBlocks, paddingLength⟩
    storeMeta fileName lastChunkMeta
    pure (fileHandle, lastChunkMeta)

def getFileHandleAndLastChunkMeta (enc : Encryptor) (fileName : String) :
    Go Mount (OsFile × LastChunkMeta) := do
  let mount ← Go.get
  match mount.handleMap fileName with
  | none => openForWriting enc fileName
  | some fileHandle =>
      match mount.lastChunkMetaMap fileName with
      | none => Go.throw (.text s!"last chunk meta not found for {fileName}")
      | some lastChunkMeta => pure (fileHandle, lastChunkMeta)

/-- The file is not truncated, so under an old name its old bytes stay. -/
def createFile (enc : Encryptor) (name : String) : Go Mount Handle := do
  let fileHandle ← onDisk (Disk.openFile (enc.path name) true)
  storeHandle name fileHandle
  storeMeta name .none
  pure ⟨name, 0⟩

def deleteFile (enc : Encryptor) (name : String) : Go Mount Unit :=
  onDisk (Disk.remove (enc.path name))

def padded (blockSize : Nat) (data : Bytes) : Bytes :=
  data ++ List.replicate (blockSize - data.length) 0

def stageData (gcm : AesGcm) (enc : Encryptor) (name : String) (offset : Nat) (data : Bytes)
    (nonce : Nonce) : Go Mount Unit := do
  let (fileHandle, lastChunkMeta) ← getFileHandleAndLastChunkMeta enc name
  let paddingLength := enc.blockSize - data.length
  let encryptedChunk ←
    fromExcept (encryptChunk gcm (padded enc.blockSize data) enc.encryptionKey nonce)
  let encryptedChunkOffset := uint64 ((offset / enc.blockSize : Nat) * enc.chunkSize)
  onDisk (Disk.writeAt fileHandle (nonce.1 ++ encryptedChunk) (int64 encryptedChunkOffset))
  if int64 (offset / enc.blockSize : Nat) > lastChunkMeta.farthestBlockSeen then
    storeMeta name ⟨int64 (offset / enc.blockSize : Nat), paddingLength⟩
  else pure ()

/-- The handle is closed also when the trailer cannot be written, and then the
tables keep it. -/
def commitData (enc : Encryptor) (name : String) : Go Mount Unit := do
  let (fileHandle, lastChunkMeta) ← getFileHandleAndLastChunkMeta enc name
  Go.defer (onDisk (Disk.close fileHandle)) (do
    if lastChunkMeta.farthestBlockSeen ≠ -1 then do
      onDisk (writePaddingLength fileHandle lastChunkMeta enc.blockSize)
      storeMeta name .none
      forget name
    else forget name)

def closedFileSize (enc : Encryptor) (name : String) (fileSize : Nat) : Go Disk Int := do
  let fileHandle ← Disk.openFile (enc.path name) false
  Go.defer (Disk.close fileHandle)
    (checkForActualFileSize fileHandle fileSize enc.blockSize)

def getAttr (enc : Encryptor) (name : String) : Go Mount ObjAttr := do
  let fileAttr ← Go.mapError (fun error => if error = .notExist then .enoent else error)
    (onDisk (Disk.stat (enc.path name)))
  if fileAttr.isDir then pure ⟨name, fileAttr.size, true⟩
  else do
    let mount ← Go.get
    match mount.handleMap name with
    | none => do
        let size ← onDisk (closedFileSize enc name fileAttr.size)
        pure ⟨name, size, false⟩
    | some _ =>
        match mount.lastChunkMetaMap name with
        | none => Go.throw (.text s!"last chunk meta not found for {name}")
        | some lastChunkMeta =>
            if lastChunkMeta.farthestBlockSeen = -1 then pure ⟨name, 0, false⟩
            else
              let size := int64
                ((lastChunkMeta.farthestBlockSeen + 1) * enc.blockSize -
                  lastChunkMeta.paddingLength)
              pure ⟨name, size, false⟩

def copy (target source : Bytes) : Bytes :=
  source.take target.length ++ target.drop source.length

def readInBuffer (gcm : AesGcm) (enc : Encryptor) (handle : Handle) (offset : Int) (data : Bytes) :
    Go Mount (Int × Bytes) :=
  if offset > handle.size then Go.throw .erange
  else
    let dataLen : Int :=
      if handle.size < int64 (offset + data.length) then int64 (handle.size - offset)
      else data.length
    if dataLen = 0 then pure (0, data)
    else do
      let fileHandle ← onDisk (Disk.openFile (enc.path handle.path) false)
      Go.defer (onDisk (Disk.close fileHandle)) (do
        let chunkIndex := offset.tdiv enc.blockSize
        let encryptedChunkOffset := int64 (chunkIndex * enc.chunkSize)
        let encryptedChunk ← onDisk (Disk.readAt fileHandle enc.chunkSize encryptedChunkOffset)
        let plainText ← fromExcept (decryptChunk gcm (encryptedChunk.drop nonceSize)
          (encryptedChunk.take nonceSize) enc.encryptionKey)
        pure (dataLen, copy data plainText))

end CleanRoom.BlobFuse
