import WasmedgeExecutor.Lib.ByteMemory
import WasmedgeExecutor.Lib.Bits
import WasmedgeExecutor.Lib.BinaryFloat
import WasmedgeExecutor.Lib.Outcome
import WasmedgeExecutor.Lib.FirstBinding
import WasmedgeExecutor.Lib.SlotVector
import WasmedgeExecutor.Lib.Simulation
import WasmedgeExecutor.Lib.Leb128
import WasmedgeExecutor.Lib.Scale
import WasmedgeExecutor.Allocator.Layout
import WasmedgeExecutor.Allocator.FreeingBump
import WasmedgeExecutor.Allocator.Spec
import WasmedgeExecutor.Allocator.Refinement
import WasmedgeExecutor.Wasmedge.Util
import WasmedgeExecutor.Wasmedge.MemorySlice
import WasmedgeExecutor.Wasmedge.HostAllocator
import WasmedgeExecutor.Wasmedge.Imports
import WasmedgeExecutor.Interface.HostFunctions
import WasmedgeExecutor.Interface.Codec
import WasmedgeExecutor.Executor.WasmiBackend
import WasmedgeExecutor.Wasmedge.Host
import WasmedgeExecutor.Wasmedge.Dispatch
import WasmedgeExecutor.Wasmtime.Imports
import WasmedgeExecutor.Executor.Sandbox
import WasmedgeExecutor.Executor.Elements
import WasmedgeExecutor.Executor.RuntimeBlob
import WasmedgeExecutor.Executor.Snapshot
import WasmedgeExecutor.Executor.Version
import WasmedgeExecutor.Wasmedge.Runtime
import WasmedgeExecutor.Wasmedge.PerformCall
import WasmedgeExecutor.Wasmedge.HostCalls
