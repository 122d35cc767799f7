import Xstd.Library.Machine
import Xstd.Library.PullStream
import Xstd.Library.Agreement
import Xstd.Construction.Platform
import Xstd.Construction.Io.Reader
import Xstd.Construction.Io.BufReader
import Xstd.Proof.Io.BufReader
import Xstd.Proof.Io.BufReaderPull
import Xstd.Proof.Io.BufReaderConservation
import Xstd.Proof.Io.BufReaderErrors
import Xstd.Proof.Io.BufReaderPaths
import Xstd.Proof.Io.BufReaderStack
import Xstd.Construction.Io.FileReader
import Xstd.Proof.Io.BufReaderFile
import Xstd.Proof.Io.BufReaderOutputs
import Xstd.Construction.Io.Writer
import Xstd.Construction.Io.Stdio
import Xstd.Proof.Io.Stdio
import Xstd.Proof.Io.FileErrors
import Xstd.Proof.Io.WriteClose
import Xstd.Construction.Alloc
import Xstd.Construction.Arena
import Xstd.Proof.Arena.Calloc
import Xstd.Proof.Arena.Agreement
import Xstd.Proof.Arena.Layout
import Xstd.Proof.Arena.Isolation
import Xstd.Proof.BumpAllocator
import Xstd.Proof.Arena.Bounds
import Xstd.Proof.Arena.Alignment
import Xstd.Proof.Arena.Destroy
import Xstd.Proof.Arena.Failure
import Xstd.Construction.Bytes.Buffer
import Xstd.Proof.Bytes.Growth
import Xstd.Proof.Alloc
import Xstd.Proof.Bytes.Buffer
import Xstd.Proof.Bytes.Access
import Xstd.Proof.Bytes.Failure
import Xstd.Proof.Arena.Realloc
import Xstd.Construction.Bytes.Adapters
import Xstd.Proof.Bytes.Adapters
import Xstd.Proof.Bytes.Stream
import Xstd.Library.Progression
import Xstd.Construction.Iter
import Xstd.Proof.Iter.Loop
import Xstd.Proof.Iter.Range
import Xstd.Construction.Option
import Xstd.Proof.Option
import Xstd.Proof.Arena.Overflow
import Xstd.Proof.Bytes.Chunks
import Xstd.Proof.Bytes.Termination
import Xstd.Construction.Io.Observed
import Xstd.Proof.Io.Observed
import Xstd.Library.Ownership
import Xstd.Proof.Frame
import Xstd.Construction.Bytes.HeapBuffer
import Xstd.Construction.Tenants
import Xstd.Proof.Tenants.Arena
import Xstd.Proof.Bytes.Block
import Xstd.Proof.Bytes.HeapBuffer
import Xstd.Proof.Tenants.Buffer
import Xstd.Proof.Tenants.HeapBuffer
import Xstd.Proof.Tenants.Pool
import Xstd.Construction.ArenaTower
import Xstd.Proof.Arena.Tower
import Xstd.Proof.Arena.Space
import Xstd.Proof.Bytes.Amortised
import Xstd.Library.Interleaving
import Xstd.Construction.Io.Graph
import Xstd.Construction.Io.Clients
import Xstd.Proof.Io.Graph.World
import Xstd.Proof.Io.Graph.Files
import Xstd.Proof.Io.Graph.BufReader
import Xstd.Proof.Io.Graph.Stack
import Xstd.Proof.Io.Graph.Layout
import Xstd.Proof.Io.Graph.Clients
import Xstd.Proof.Io.Lossless
import Xstd.Proof.Io.Stored
import Xstd.Proof.Io.Graph.Delivery
import Xstd.Library.Assertion
import Xstd.Proof.Assertion
import Xstd.Proof.Tenants.Assertion
