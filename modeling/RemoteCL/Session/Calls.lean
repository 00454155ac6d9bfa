import RemoteCL.Client.Api
import RemoteCL.Session.Calls.Details
import RemoteCL.Session.Calls.Images
import RemoteCL.Session.Calls.Programs
import RemoteCL.Session.Calls.Queries

/-!
# Calls

`ApiCall.completes` collects what is known about the single functions: a call whose strings, lists
and payloads fit into their fields comes to rest, and `Effect` describes what it leaves behind.
`takes` is how many of the IDs in its reply it resolves.
-/

namespace RemoteCL.Client

open ByteStream Conversation

namespace ApiCall

/-- The strings, lists and payloads of a call fit into the fields that carry them.  If there is no
array for the handles that a call lists, there are none to be stored, and if there are headers they
are refused: otherwise the memory of the client is overrun. -/
def Fits : ApiCall → Prop
  | clGetPlatformIDs num_entries platforms num_platforms =>
    platforms = false → num_platforms = true → num_entries = 0
  | clGetDeviceIDs _ _ num_entries devices num_devices =>
    devices = false → num_devices = true → num_entries = 0
  | clCreateContext properties devices _ =>
    (properties.flatMap Property.encode).length ≤ 255 ∧
      ∀ ds, devices = some ds → ds.length ≤ 65535
  | clCreateContextFromType properties _ _ _ =>
    (properties.flatMap Property.encode).length ≤ 255
  | clCreateCommandQueueWithProperties _ _ properties _ =>
    (properties.flatMap fun p => [p.1, p.2]).length ≤ 255
  | clCreateProgramWithSource _ strings _ =>
    ∀ lines source, strings = some lines → joinSources lines = some source → StringFits source
  | clCreateProgramWithBinary _ devices binaries _ _ =>
    (devices.getD []).length ≤ 255 ∧
      ∀ data ∈ binaries.getD [], data.length < SizeT.range .uint32
  | clCompileProgram _ num_devices _ options num_input_headers input_headers names _ =>
    num_devices ≤ 255 ∧ StringFits (stringOf options) ∧
      (num_input_headers ≠ 0 → input_headers.isNone ∨ names.isNone ∨
        nullHeader input_headers names)
  | clLinkProgram _ num_devices _ options num_input_programs _ _ _ =>
    num_devices ≤ 255 ∧ num_input_programs ≤ 255 ∧ StringFits (stringOf options)
  | clBuildProgram _ num_devices _ options _ =>
    num_devices ≤ 255 ∧ StringFits (stringOf options)
  | clCreateKernel _ name _ => StringFits (stringOf name)
  | clEnqueueNDRangeKernel _ _ _ args => args.num_events_in_wait_list ≤ 255
  | clEnqueueFillBuffer _ _ _ _ _ _ args => args.num_events_in_wait_list ≤ 255
  | clEnqueueReadBuffer _ _ _ _ _ args => args.num_events_in_wait_list ≤ 255
  | clEnqueueReadBufferRect _ _ _ rect args => args.num_events_in_wait_list ≤ 255 ∧ rect.Fits
  | clEnqueueWriteBuffer _ _ _ _ _ _ args => args.num_events_in_wait_list ≤ 255
  | clWaitForEvents num_events _ => num_events ≤ 255
  | _ => True

/-- How many of the IDs in its reply a call resolves. -/
def takes : ApiCall → List IDType → ℕ
  | clGetImageInfo _ _ _ => takesParent
  | clGetEventInfo _ _ args => takesIf fun _ => args.roomForHandle
  | clGetContextInfo _ _ args => args.takesDevices
  | clGetProgramInfo _ param_name args => takesOfProgram param_name args
  | _ => List.length

/-- Whether a call may store a part of a handle. -/
def truncates : ApiCall → Bool
  | clGetEventInfo _ param_name args =>
    decide (param_name = CL_EVENT_COMMAND_QUEUE) && args.roomForHandle
  | _ => false

variable {δ : Type} {E : δ → (c : ServerCall) → Ans c → δ → Prop} {B : ServerBuild} {C : Build}
variable {A : Set Ptr} {s : ClientState} {t : ServerState} {e : δ}

/-- **Every call comes to rest**, and has its effect. -/
theorem completes (hB : 210 ≤ B.clTarget) (hdown : SameFormat B.zlib C.zlib)
    (hup : SameFormat C.zlib B.zlib) (hE : AllLegal A E) (hg : Good A t.mObjects)
    (call : ApiCall) (hfits : call.Fits) :
    Completes E B A call.takes call.truncates (call.call C) s t e := by
  cases call with
  | clGetPlatformIDs => exact completes_clGetPlatformIDs hE hg hfits
  | clGetPlatformInfo => exact completes_clGetPlatformInfo hE hdown _ _ _
  | clGetDeviceIDs => exact completes_clGetDeviceIDs hE hg _ _ hfits
  | clGetDeviceInfo => exact completes_clGetDeviceInfo hE hdown hg hB _ _ _ _
  | clRetainDevice => exact completes_changeRefCount rfl (by decide) _ _ _
  | clReleaseDevice => exact completes_changeRefCount rfl (by decide) _ _ _
  | clCreateContext => exact completes_clCreateContext hE hg _ hfits.1 hfits.2
  | clCreateContextFromType => exact completes_clCreateContextFromType hE hg _ _ _ hfits
  | clGetContextInfo => exact completes_clGetContextInfo hE hg hdown _ _ _
  | clGetSupportedImageFormats =>
    exact completes_clGetSupportedImageFormats hE hdown _ _ _ _ _ _
  | clRetainContext => exact completes_changeRefCountOf rfl (by decide) _ _ _ _
  | clReleaseContext => exact completes_changeRefCountOf rfl (by decide) _ _ _ _
  | clCreateCommandQueue => exact completes_clCreateCommandQueue hE hg _ _ _ _
  | clCreateCommandQueueWithProperties =>
    exact completes_clCreateCommandQueueWithProperties hE hg hB _ _ _ hfits
  | clGetCommandQueueInfo => exact completes_clGetCommandQueueInfo hE hdown hg _ _ _
  | clRetainCommandQueue => exact completes_changeRefCountOf rfl (by decide) _ _ _ _
  | clReleaseCommandQueue => exact completes_changeRefCountOf rfl (by decide) _ _ _ _
  | clFlush => exact completes_clFlush _
  | clFinish => exact completes_clFinish _
  | clCreateProgramWithSource => exact completes_clCreateProgramWithSource hE hg _ _ hfits
  | clCreateProgramWithBinary =>
    exact completes_clCreateProgramWithBinary hE hg hdown hup _ _ _ hfits.1 hfits.2
  | clCompileProgram => exact completes_clCompileProgram _ _ _ hfits.1 hfits.2.1 hfits.2.2
  | clLinkProgram =>
    exact completes_clLinkProgram hE hg _ _ _ _ _ hfits.1 hfits.2.1 hfits.2.2
  | clBuildProgram => exact completes_clBuildProgram _ _ _ hfits.1 hfits.2
  | clGetProgramBuildInfo => exact completes_clGetProgramBuildInfo hE hdown _ _ _ _
  | clGetProgramInfo => exact completes_clGetProgramInfo hE hg hdown _ _ _
  | clRetainProgram => exact completes_changeRefCountOf rfl (by decide) _ _ _ _
  | clReleaseProgram => exact completes_changeRefCountOf rfl (by decide) _ _ _ _
  | clCreateKernel => exact completes_clCreateKernel hE hg _ _ hfits
  | clCreateKernelsInProgram => exact completes_clCreateKernelsInProgram hE hg _ _ _ _
  | clCloneKernel => exact completes_clCloneKernel hB hE hg _ _
  | clGetKernelWorkGroupInfo => exact completes_clGetKernelWorkGroupInfo hE hdown _ _ _ _ _
  | clGetKernelInfo => exact completes_clGetKernelInfo hE hdown hg _ _ _
  | clGetKernelArgInfo => exact completes_clGetKernelArgInfo hE hdown _ _ _ _
  | clRetainKernel => exact completes_changeRefCountOf rfl (by decide) _ _ _ _
  | clReleaseKernel => exact completes_changeRefCountOf rfl (by decide) _ _ _ _
  | clEnqueueNDRangeKernel => exact completes_clEnqueueNDRangeKernel hE.eventsIn hg hfits _ _ _
  | clCreateBuffer => exact completes_clCreateBuffer hE hg hup _ _ _ _ _
  | clCreateSubBuffer => exact completes_clCreateSubBuffer hE hg _ _ _ _ _
  | clCreateImage => exact completes_clCreateImage hE hg hup _ _ _ _ _ _ _
  | clGetMemObjectInfo => exact completes_clGetMemObjectInfo hE hdown hg _ _ _
  | clGetImageInfo => exact completes_clGetImageInfo hE hdown hg _ _ _
  | clRetainMemObject => exact completes_changeRefCountOf rfl (by decide) _ _ _ _
  | clReleaseMemObject => exact completes_changeRefCountOf rfl (by decide) _ _ _ _
  | clEnqueueFillBuffer => exact completes_clEnqueueFillBuffer hE.eventsIn hg hfits _ _ _ _ _ _
  | clEnqueueReadBuffer =>
    exact completes_clEnqueueReadBuffer hE.eventsIn hg hfits hdown _ _ _ _ _
  | clEnqueueReadBufferRect =>
    exact completes_clEnqueueReadBufferRect hE.eventsIn hg hfits.1 hdown _ _ _ hfits.2
  | clEnqueueWriteBuffer =>
    exact completes_clEnqueueWriteBuffer hE.eventsIn hg hfits hup _ _ _ _ _ _
  | clCreateUserEvent => exact completes_clCreateUserEvent hE hg _ _
  | clSetUserEventStatus => exact completes_clSetUserEventStatus _ _
  | clGetEventInfo => exact completes_clGetEventInfo hE hg _ _ _
  | clGetEventProfilingInfo => exact completes_clGetEventProfilingInfo _ _ _
  | clWaitForEvents => exact completes_clWaitForEvents _ hfits
  | clRetainEvent => exact completes_changeRefCountOf rfl (by decide) _ _ _ _
  | clReleaseEvent => exact completes_changeRefCountOf rfl (by decide) _ _ _ _

end ApiCall

end RemoteCL.Client
