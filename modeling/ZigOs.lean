import ZigOs.RuntimeFd.ByteRanges
import ZigOs.RuntimeFd.Pipes
import ZigOs.RuntimeUser.WorkingDirectory
import ZigOs.RuntimeVfs.FailedOpens
import ZigOs.RuntimeVfs.Watches
import ZigOs.RuntimeFd.Quotas
import ZigOs.RuntimeTty.Ordered
import ZigOs.RuntimeUser.DeferredIngress
import ZigOs.RuntimeUser.SocketWakeups
import ZigOs.Nvme.Pairing
import ZigOs.E1000e.InStep
import ZigOs.E1000e.Delivery
import ZigOs.TcpConnection.Rejection
import ZigOs.TcpConnection.Link
import ZigOs.RuntimeUser.MmapSearch
import ZigOs.Memory.Contiguous
import ZigOs.RuntimePagePool.PhysicalMemory
import ZigOs.RuntimeUser.StartFrame
import ZigOs.RuntimeUser.Loader
import ZigOs.KernelHeap.Sessions
import ZigOs.RuntimeProcess.Rounds
import ZigOs.TcpConnection.Handshake
import ZigOs.RuntimeCommand.Injection
import ZigOs.RuntimeCommand.Recall
import ZigOs.Shell.Containment
import ZigOs.RuntimeBootFat.Publication
import ZigOs.Fat.Geometry
import ZigOs.Dns.Recency
import ZigOs.E1000e.Flips
import ZigOs.Sdk.Agreement
import ZigOs.Ntp.ProjectedClock
import ZigOs.Input.Keyboard
import ZigOs.E1000e.Acceptance
import ZigOs.Sdk.Tail
import ZigOs.Sdk.CommandReader
import ZigOs.Sdk.Grep
