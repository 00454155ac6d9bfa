import RemoteCL.Client.Memory
import RemoteCL.Client.Objects
import RemoteCL.Client.Program

/-!
# Calls of the API

A call is a function of the client together with its arguments.  `ApiCall.call` is the program that
the application starts by making the call.

The functions that are missing are those whose conversation depends on more than their arguments
and the driver: `clSetKernelArg` and the transfers of images, which have to be called with care, and
`clSetEventCallback`, which needs an event stream.
-/

namespace RemoteCL

open ByteStream

namespace Client

/-- A function, and its arguments. -/
inductive ApiCall where
  -- platforms and devices
  | clGetPlatformIDs (num_entries : ℕ) (platforms num_platforms : Bool)
  | clGetPlatformInfo (platform : Option Handle) (param_name : UInt32) (args : InfoArgs)
  | clGetDeviceIDs (platform : Option Handle) (device_type : UInt64) (num_entries : ℕ)
      (devices num_devices : Bool)
  | clGetDeviceInfo (device : Option Handle) (param_name : UInt32) (args : InfoArgs)
  | clRetainDevice (device : Handle)
  | clReleaseDevice (device : Handle)
  -- contexts
  | clCreateContext (properties : List Property) (devices : Option (List (Option Handle)))
      (errcode_ret : Bool)
  | clCreateContextFromType (properties : List Property) (device_type : UInt64)
      (callback errcode_ret : Bool)
  | clGetContextInfo (context : Option Handle) (param_name : UInt32) (args : InfoArgs)
  | clGetSupportedImageFormats (context : Option Handle) (flags : UInt64) (image_type : UInt32)
      (num_entries : ℕ) (image_formats num_image_formats : Bool)
  | clRetainContext (context : Option Handle)
  | clReleaseContext (context : Option Handle)
  -- queues
  | clCreateCommandQueue (context device : Option Handle) (properties : UInt64)
      (errcode_ret : Bool)
  | clCreateCommandQueueWithProperties (context device : Option Handle)
      (properties : List (UInt64 × UInt64)) (errcode_ret : Bool)
  | clGetCommandQueueInfo (command_queue : Option Handle) (param_name : UInt32) (args : InfoArgs)
  | clRetainCommandQueue (command_queue : Option Handle)
  | clReleaseCommandQueue (command_queue : Option Handle)
  | clFlush (command_queue : Option Handle)
  | clFinish (command_queue : Option Handle)
  -- programs
  | clCreateProgramWithSource (context : Option Handle)
      (strings : Option (List (Option Bytes × ℕ))) (errcode_ret : Bool)
  | clCreateProgramWithBinary (context : Option Handle)
      (device_list : Option (List (Option Handle))) (binaries : Option (List Bytes))
      (binary_status errcode_ret : Bool)
  | clCompileProgram (program : Option Handle) (num_devices : ℕ)
      (device_list : Option (List (Option Handle))) (options : Option Bytes)
      (num_input_headers : ℕ) (input_headers : Option (List (Option Handle)))
      (header_include_names : Option (List (Option Bytes))) (notify : Notify)
  | clLinkProgram (context : Option Handle) (num_devices : ℕ)
      (device_list : Option (List (Option Handle))) (options : Option Bytes)
      (num_input_programs : ℕ) (input_programs : Option (List (Option Handle)))
      (notify : Notify) (errcode_ret : Bool)
  | clBuildProgram (program : Option Handle) (num_devices : ℕ)
      (device_list : Option (List (Option Handle))) (options : Option Bytes) (notify : Notify)
  | clGetProgramBuildInfo (program device : Option Handle) (param_name : UInt32)
      (args : InfoArgs)
  | clGetProgramInfo (program : Option Handle) (param_name : UInt32) (args : InfoArgs)
  | clRetainProgram (program : Option Handle)
  | clReleaseProgram (program : Option Handle)
  -- kernels
  | clCreateKernel (program : Option Handle) (kernel_name : Option Bytes) (errcode_ret : Bool)
  | clCreateKernelsInProgram (program : Option Handle) (num_kernels : UInt32)
      (kernels num_kernels_ret : Bool)
  | clCloneKernel (source_kernel : Option Handle) (errcode_ret : Bool)
  | clGetKernelWorkGroupInfo (kernel device : Option Handle) (param_name : UInt32)
      (args : InfoArgs)
  | clGetKernelInfo (kernel : Option Handle) (param_name : UInt32) (args : InfoArgs)
  | clGetKernelArgInfo (kernel : Option Handle) (arg_indx param_name : UInt32) (args : InfoArgs)
  | clRetainKernel (kernel : Option Handle)
  | clReleaseKernel (kernel : Option Handle)
  | clEnqueueNDRangeKernel (command_queue kernel : Option Handle) (r : NDRange)
      (args : WaitArgs)
  -- buffers and images
  | clCreateBuffer (context : Option Handle) (flags size : UInt64) (host_ptr : Option Bytes)
      (errcode_ret : Bool)
  | clCreateSubBuffer (buffer : Option Handle) (flags : UInt64) (buffer_create_type : UInt32)
      (buffer_create_info : Option (UInt64 × UInt64)) (errcode_ret : Bool)
  | clCreateImage (context : Option Handle) (flags : UInt64) (image_format image_desc : Bool)
      (desc : ImageDesc) (host_ptr : Option Bytes) (errcode_ret : Bool)
  | clGetMemObjectInfo (memobj : Option Handle) (param_name : UInt32) (args : InfoArgs)
  | clGetImageInfo (image : Option Handle) (param_name : UInt32) (args : InfoArgs)
  | clRetainMemObject (memobj : Option Handle)
  | clReleaseMemObject (memobj : Option Handle)
  | clEnqueueFillBuffer (command_queue buffer : Option Handle) (pattern : Bytes)
      (pattern_size offset size : UInt64) (args : WaitArgs)
  | clEnqueueReadBuffer (command_queue buffer : Option Handle) (blocking_read : Bool)
      (offset size : UInt64) (args : WaitArgs)
  | clEnqueueReadBufferRect (command_queue buffer : Option Handle) (blocking_read : Bool)
      (rect : RectArgs) (args : WaitArgs)
  | clEnqueueWriteBuffer (command_queue buffer : Option Handle) (blocking_write : Bool)
      (offset size : UInt64) (ptr : Bytes) (args : WaitArgs)
  -- events
  | clCreateUserEvent (context : Option Handle) (errcode_ret : Bool)
  | clSetUserEventStatus (event : Option Handle) (execution_status : UInt32)
  | clGetEventInfo (event : Option Handle) (param_name : UInt32) (args : InfoArgs)
  | clGetEventProfilingInfo (event : Option Handle) (param_name : UInt32) (args : InfoArgs)
  | clWaitForEvents (num_events : ℕ) (event_list : Option (List (Option Handle)))
  | clRetainEvent (event : Option Handle)
  | clReleaseEvent (event : Option Handle)
  deriving DecidableEq

/-- The program of a call. -/
def ApiCall.call (C : Build) : ApiCall → ClientM Ret
  | clGetPlatformIDs n ps count => Client.clGetPlatformIDs n ps count
  | clGetPlatformInfo p param args => Client.clGetPlatformInfo C p param args
  | clGetDeviceIDs p type n ds count => Client.clGetDeviceIDs p type n ds count
  | clGetDeviceInfo d param args => Client.clGetDeviceInfo C .wide d param args
  | clRetainDevice d => Client.clRetainDevice d
  | clReleaseDevice d => Client.clReleaseDevice d
  | clCreateContext props ds err => Client.clCreateContext props ds err
  | clCreateContextFromType props type callback err =>
    Client.clCreateContextFromType props type callback err
  | clGetContextInfo c param args => Client.clGetContextInfo C c param args
  | clGetSupportedImageFormats c flags type n formats count =>
    Client.clGetSupportedImageFormats C c flags type n formats count
  | clRetainContext c => Client.clRetainContext c
  | clReleaseContext c => Client.clReleaseContext c
  | clCreateCommandQueue c d props err => Client.clCreateCommandQueue c d props err
  | clCreateCommandQueueWithProperties c d props err =>
    Client.clCreateCommandQueueWithProperties c d props err
  | clGetCommandQueueInfo q param args => Client.clGetCommandQueueInfo C q param args
  | clRetainCommandQueue q => Client.clRetainCommandQueue q
  | clReleaseCommandQueue q => Client.clReleaseCommandQueue q
  | clFlush q => Client.clFlush q
  | clFinish q => Client.clFinish q
  | clCreateProgramWithSource c strings err => Client.clCreateProgramWithSource c strings err
  | clCreateProgramWithBinary c ds binaries status err =>
    Client.clCreateProgramWithBinary C c ds binaries status err
  | clCompileProgram p n ds options m headers names notify =>
    Client.clCompileProgram p n ds options m headers names notify
  | clLinkProgram c n ds options m programs notify err =>
    Client.clLinkProgram c n ds options m programs notify err
  | clBuildProgram p n ds options notify => Client.clBuildProgram p n ds options notify
  | clGetProgramBuildInfo p d param args => Client.clGetProgramBuildInfo C p d param args
  | clGetProgramInfo p param args => Client.clGetProgramInfo C p param args
  | clRetainProgram p => Client.clRetainProgram p
  | clReleaseProgram p => Client.clReleaseProgram p
  | clCreateKernel p name err => Client.clCreateKernel p name err
  | clCreateKernelsInProgram p n kernels count =>
    Client.clCreateKernelsInProgram p n kernels count
  | clCloneKernel k err => Client.clCloneKernel k err
  | clGetKernelWorkGroupInfo k d param args =>
    Client.clGetKernelWorkGroupInfo C .wide k d param args
  | clGetKernelInfo k param args => Client.clGetKernelInfo C k param args
  | clGetKernelArgInfo k index param args => Client.clGetKernelArgInfo C k index param args
  | clRetainKernel k => Client.clRetainKernel k
  | clReleaseKernel k => Client.clReleaseKernel k
  | clEnqueueNDRangeKernel q k r args => Client.clEnqueueNDRangeKernel q k r args
  | clCreateBuffer c flags size ptr err => Client.clCreateBuffer C c flags size ptr err
  | clCreateSubBuffer b flags type info err => Client.clCreateSubBuffer b flags type info err
  | clCreateImage c flags format desc d ptr err =>
    Client.clCreateImage C c flags format desc d ptr err
  | clGetMemObjectInfo m param args => Client.clGetMemObjectInfo C m param args
  | clGetImageInfo i param args => Client.clGetImageInfo C i param args
  | clRetainMemObject m => Client.clRetainMemObject m
  | clReleaseMemObject m => Client.clReleaseMemObject m
  | clEnqueueFillBuffer q b pattern n offset size args =>
    Client.clEnqueueFillBuffer q b pattern n offset size args
  | clEnqueueReadBuffer q b block offset size args =>
    Client.clEnqueueReadBuffer C q b block offset size args
  | clEnqueueReadBufferRect q b block rect args =>
    Client.clEnqueueReadBufferRect C q b block rect args
  | clEnqueueWriteBuffer q b block offset size ptr args =>
    Client.clEnqueueWriteBuffer C q b block offset size ptr args
  | clCreateUserEvent c err => Client.clCreateUserEvent c err
  | clSetUserEventStatus e status => Client.clSetUserEventStatus e status
  | clGetEventInfo e param args => Client.clGetEventInfo e param args
  | clGetEventProfilingInfo e param args => Client.clGetEventProfilingInfo e param args
  | clWaitForEvents n events => Client.clWaitForEvents n events
  | clRetainEvent e => Client.clRetainEvent e
  | clReleaseEvent e => Client.clReleaseEvent e

end Client

end RemoteCL
